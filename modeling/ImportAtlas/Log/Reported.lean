import ImportAtlas.Log.Basic

/-!
# Computations that report

A computation that reports yields log records and then a value or a fault.  After a fault nothing
more is reported.
-/

namespace ImportAtlas

/-- Log records, and then a value or a fault. -/
structure Reported (ε α : Type) where
  records : List LogRecord
  outcome : Except ε α

namespace Reported

variable {ε α β : Type}

def value (a : α) : Reported ε α := ⟨[], .ok a⟩

def record (record : LogRecord) : Reported ε Unit := ⟨[record], .ok ()⟩

def fault (fault : ε) : Reported ε α := ⟨[], .error fault⟩

def ofExcept (outcome : Except ε α) : Reported ε α := ⟨[], outcome⟩

def bind (first : Reported ε α) (next : α → Reported ε β) : Reported ε β :=
  match first.outcome with
  | .error fault => ⟨first.records, .error fault⟩
  | .ok a => ⟨first.records ++ (next a).records, (next a).outcome⟩

instance : Monad (Reported ε) where
  pure := value
  bind := bind

def mapFault {δ : Type} (f : ε → δ) (computation : Reported ε α) : Reported δ α :=
  ⟨computation.records, computation.outcome.mapError f⟩

/-!
## Laws

Records are kept in order, however the computations are grouped.
-/

@[simp] theorem pure_eq (a : α) : (pure a : Reported ε α) = ⟨[], .ok a⟩ := rfl

theorem bind_ok (records : List LogRecord) (a : α) (next : α → Reported ε β) :
    ((⟨records, .ok a⟩ : Reported ε α) >>= next) =
      ⟨records ++ (next a).records, (next a).outcome⟩ := rfl

theorem bind_assoc {γ : Type} (first : Reported ε α) (next : α → Reported ε β)
    (last : β → Reported ε γ) : first >>= next >>= last = first >>= fun a => next a >>= last := by
  obtain ⟨records, outcome⟩ := first
  cases outcome with
  | error fault => rfl
  | ok a =>
      rw [bind_ok, bind_ok]
      obtain ⟨more, outcome⟩ := next a
      cases outcome with
      | error fault => rfl
      | ok b =>
          rw [bind_ok, bind_ok, List.append_assoc]

instance : LawfulMonad (Reported ε) :=
  LawfulMonad.mk' (Reported ε)
    (fun computation => by
      obtain ⟨records, outcome⟩ := computation
      change bind ⟨records, outcome⟩ _ = _
      cases outcome with
      | error fault => rfl
      | ok a => simp [bind, value, Function.comp])
    (fun _ _ => rfl)
    bind_assoc

end Reported

/-!
## Faults of layers

A layer passes on the faults of the one below as faults of its own.
-/

section Layers

variable {α δ ε : Type} {toFault : ε → δ}

@[simp] theorem mapError_ok (a : α) : (Except.ok a).mapError toFault = .ok a := rfl

@[simp] theorem mapError_error (fault : ε) :
    (Except.error fault : Except ε α).mapError toFault = .error (toFault fault) := rfl

theorem mapError_eq_ok_iff {outcome : Except ε α} {a : α} :
    outcome.mapError toFault = .ok a ↔ outcome = .ok a := by
  cases outcome <;> simp

end Layers

end ImportAtlas
