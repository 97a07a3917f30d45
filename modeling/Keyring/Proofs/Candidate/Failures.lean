import Keyring.Proofs.Candidate.Lookup

/-!
# How lookups fail

A lookup that fails is reported by the name of the property and the class of the cause. This is so
for whatever an accessor raises when it is called and for whatever an attribute raises when it is
read. An accessor that cannot even be read, and a mapping that cannot be asked for its entry, fail
with the exception as it is.
-/

namespace Keyring.Candidate

variable {c : Candidate} {name : Text}

/-- The exceptions that a lookup lets through: those of an accessor that is computed when it is
read, and those met where the entry of a mapping is asked for. -/
inductive Escapes (c : Candidate) (name : Text) : Fault → Prop
  | getter {fault : Fault} (h : c.Raises ("get_" ++ name) fault) : c.Escapes name fault
  | tester {fault : Fault} (hg : c.Passes ("get_" ++ name)) (h : c.Raises ("is_" ++ name) fault) :
    c.Escapes name fault
  | entry {fault : Fault} (hg : c.Passes ("get_" ++ name)) (hi : c.Passes ("is_" ++ name))
    (hl : c.Lacks name) (h : (c.entry name).value = .error fault) : c.Escapes name fault

theorem Escapes.value_property {fault : Fault} (hn : name.isPropertyName = true)
    (h : c.Escapes name fault) : (c.property name).value = .error fault := by
  cases h with
  | getter hr => exact (Finds.getterRaises hr).value_property hn
  | tester hg hr => exact (Finds.testerRaises hg hr).value_property hn
  | entry hg hi hl hf => rw [(Finds.entry hg hi hl).value_property hn, hf]

section Kinds

variable {isRight : Value → Bool}

end Kinds

end Keyring.Candidate
