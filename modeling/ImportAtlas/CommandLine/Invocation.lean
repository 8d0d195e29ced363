import ImportAtlas.CommandLine.Word
import ImportAtlas.Path
import ImportAtlas.Settings.Check

/-!
# Invocations

A command line asks for a run with certain options, or for help, or it is refused.  The first
operand is the directory to look at.  Options act one after another in the order in which they are
written, so help ends everything that follows; words that mean nothing are objected to at the very
end.
-/

namespace ImportAtlas

structure Invocation where
  root : Text
  /-- How often more records were asked for. -/
  verbose : Nat
  /-- How often fewer records were asked for. -/
  quiet : Nat
  environmentFile : Option (OptionValue TidyPath)
  format : OptionValue OutputFormat
  output : Option (OptionValue TidyPath)
  extensions : Option (List (OptionValue Text))
  useGit : Option Bool
  resolveExtensions : Option Bool
  includeReexports : Option Bool
  rankDirection : Option (OptionValue RankDirection)
  graphName : Option (OptionValue Text)
deriving DecidableEq

inductive Halt where
  | help
  | refused (fault : UsageFault)
deriving DecidableEq

/-- An option with its value, which for a flag is blank. -/
structure GivenOption where
  option : CommandOption
  value : OptionValue Text

def GivenOption.flag (option : CommandOption) : GivenOption := ⟨option, .blank⟩

namespace Invocation

def standard : Invocation where
  root := "."
  verbose := 0
  quiet := 0
  environmentFile := none
  format := .value .dot
  output := none
  extensions := none
  useGit := none
  resolveExtensions := none
  includeReexports := none
  rankDirection := none
  graphName := none

/-!
# The effect of an option
-/

/-- A value among the choices for an option.  A blank is not looked up. -/
def choose {α : Type} (given : GivenOption) (ofName? : Text → Option α) (choices : List Text) :
    Except Halt (OptionValue α) :=
  match given.value with
  | .blank => .ok .blank
  | .value word =>
      match ofName? word with
      | some choice => .ok (.value choice)
      | none => .error (.refused (.invalidChoice given.option word choices))

def apply (invocation : Invocation) (given : GivenOption) : Except Halt Invocation :=
  match given.option with
  | .help => .error .help
  | .verbose => .ok { invocation with verbose := invocation.verbose + 1 }
  | .quiet => .ok { invocation with quiet := invocation.quiet + 1 }
  | .environmentFile =>
      .ok { invocation with environmentFile := some (given.value.map TidyPath.ofText) }
  | .format => do
      let format ← choose given OutputFormat.ofName? (OutputFormat.all.map OutputFormat.name)
      return { invocation with format := format }
  | .output => .ok { invocation with output := some (given.value.map TidyPath.ofText) }
  | .extension =>
      .ok { invocation with extensions := some (invocation.extensions.getD [] ++ [given.value]) }
  | .withoutGit => .ok { invocation with useGit := some false }
  | .withoutResolving => .ok { invocation with resolveExtensions := some false }
  | .includeReexports => .ok { invocation with includeReexports := some true }
  | .rankDirection => do
      let direction ←
        choose given RankDirection.ofName? (RankDirection.all.map RankDirection.name)
      return { invocation with rankDirection := some direction }
  | .graphName => .ok { invocation with graphName := some given.value }

/-!
# Options in one word

Several letters may share a word as long as all but the last are flags.  The last option of a word
may expect its value from the next one.
-/

/-- The options of a word from one of its letters on, given what follows that letter, and the option
that still lacks its value. -/
def bundle (option : CommandOption) :
    Text → Except UsageFault (List GivenOption × Option CommandOption)
  | [] => if option.takesValue then .ok ([], some option) else .ok ([.flag option], none)
  | letter :: rest =>
      if option.takesValue then .ok ([⟨option, .ofAttached (letter :: rest)⟩], none)
      else
        match CommandOption.ofLetter? letter with
        | none => .error (.needlessValue option (letter :: rest))
        | some next => do
            let (given, lacking) ← bundle next rest
            return (.flag option :: given, lacking)

def unpack (option : CommandOption) (isLong : Bool) (attached : Option Text) :
    Except UsageFault (List GivenOption × Option CommandOption) :=
  match attached with
  | none => bundle option []
  | some value =>
      if option.takesValue then .ok ([⟨option, .ofAttached value⟩], none)
      else if isLong || value = [] then .error (.needlessValue option value)
      else bundle option value

/-!
# Reading all words
-/

structure Progress where
  invocation : Invocation
  rootGiven : Bool
  /-- The words that mean nothing. -/
  surplus : List Text

namespace Progress

def start : Progress := ⟨.standard, false, []⟩

def withRoot (progress : Progress) (root : Text) : Progress :=
  { progress with invocation := { progress.invocation with root := root }, rootGiven := true }

def withSurplus (progress : Progress) (word : Text) : Progress :=
  { progress with surplus := progress.surplus ++ [word] }

def withOptions (progress : Progress) (given : List GivenOption) : Except Halt Progress := do
  let invocation ← given.foldlM Invocation.apply progress.invocation
  return { progress with invocation := invocation }

end Progress

/-- Read words.  The separator belongs to the first operand and is surplus when it does not stand
beside it. -/
def readWords (progress : Progress) : List CommandWord → Except Halt Progress
  | [] => .ok progress
  | .operand word :: words =>
      if progress.rootGiven then readWords (progress.withSurplus word) words
      else
        match words with
        | .separator :: words => readWords (progress.withRoot word) words
        | words => readWords (progress.withRoot word) words
  | .separator :: words =>
      if progress.rootGiven then readWords (progress.withSurplus separatorWord) words
      else readWords progress words
  | .unknown word :: words => readWords (progress.withSurplus word) words
  | .option option isLong attached :: words =>
      match unpack option isLong attached with
      | .error fault => .error (.refused fault)
      | .ok (given, none) => do
          let progress ← progress.withOptions given
          readWords progress words
      | .ok (given, some lacking) =>
          match words with
          | .operand value :: words => do
              let progress ← progress.withOptions (given ++ [⟨lacking, .value value⟩])
              readWords progress words
          | _ => .error (.refused (.missingValue lacking))

def ofTexts (words : List Text) : Except Halt Invocation := do
  let words ← (CommandWord.ofTexts words).mapError Halt.refused
  let progress ← readWords .start words
  if progress.surplus = [] then return progress.invocation
  else throw (.refused (.unrecognized progress.surplus))

/-!
# What an invocation says about the settings
-/

/-- What an option gives as a setting.  A blank is an empty array. -/
def settingOf : OptionValue Text → Json
  | .blank => .array []
  | .value text => .text text

def given (invocation : Invocation) : Settings.Given
  | .extensions => invocation.extensions.map fun values => .array (values.map settingOf)
  | .useGit => invocation.useGit.map Json.bool
  | .resolveExtensions => invocation.resolveExtensions.map Json.bool
  | .includeReexports => invocation.includeReexports.map Json.bool
  | .rankDirection =>
      invocation.rankDirection.map fun direction => settingOf (direction.map RankDirection.name)
  | .graphName => invocation.graphName.map settingOf
  | .excludedDirectories | .encoding | .clusterColor => none

end Invocation

end ImportAtlas
