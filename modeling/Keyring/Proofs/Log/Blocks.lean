import Keyring.Query.Selection

/-!
# What blocks leave of a log context

A block binds fields while it lasts and unbinds their names at its end, however it ends. Blocks in
it do the same, so in the end the context has lost every name that was bound on the way, and is the
context from before exactly if it had none of them.
-/

namespace Keyring

namespace Log

namespace Fields

theorem erase_nil (fields : Fields) : fields.erase [] = fields := by
  simp [erase]

theorem erase_erase (fields : Fields) (names more : List Text) :
    (fields.erase names).erase more = fields.erase (names ++ more) := by
  simp only [erase, List.filter_filter, List.contains_append, Bool.not_or]
  congr 1
  funext entry
  exact Bool.and_comm _ _

theorem erase_congr {names more : List Text} (h : ∀ name, name ∈ names ↔ name ∈ more)
    (fields : Fields) : fields.erase names = fields.erase more := by
  apply List.filter_congr
  intro entry _
  rw [Bool.eq_iff_iff]
  simp [h]

theorem erase_set {names : List Text} {name : Text} (h : name ∈ names) (fields : Fields)
    (value : Field) : (fields.set name value).erase names = fields.erase names := by
  induction fields with
  | nil => simp [set, erase, h]
  | cons entry rest ih =>
    rw [set]
    split
    next hname =>
      subst hname
      simp [erase, h]
    next =>
      simp only [erase, List.filter_cons] at ih ⊢
      rw [ih]

theorem erase_update {names : List Text} {more : Fields} (h : ∀ entry ∈ more, entry.1 ∈ names)
    (fields : Fields) : (fields.update more).erase names = fields.erase names := by
  induction more generalizing fields with
  | nil => rfl
  | cons entry more ih =>
    have hmore : ∀ e ∈ more, e.1 ∈ names := by
      intro e he
      exact h e (List.mem_cons_of_mem entry he)
    have hset := erase_set (h entry List.mem_cons_self) fields entry.2
    exact (ih hmore (fields.set entry.1 entry.2)).trans hset

theorem get?_cons (entry : Text × Field) (rest : Fields) (name : Text) :
    get? (entry :: rest) name = if entry.1 = name then some entry.2 else get? rest name := by
  simp only [get?, List.find?_cons]
  by_cases h : entry.1 = name
  · simp [h]
  · have hne : (entry.1 == name) = false := beq_eq_false_iff_ne.mpr h
    rw [hne, if_neg h]

theorem get?_eq_none_iff {fields : Fields} {name : Text} :
    fields.get? name = none ↔ ∀ entry ∈ fields, entry.1 ≠ name := by
  simp [get?]

theorem get?_erase (fields : Fields) (names : List Text) (name : Text) :
    (fields.erase names).get? name = if name ∈ names then none else fields.get? name := by
  induction fields with
  | nil => simp [erase, get?]
  | cons entry rest ih =>
    by_cases hgone : entry.1 ∈ names
    · have herase : erase (entry :: rest) names = erase rest names := by
        simp [erase, hgone]
      rw [herase, ih, get?_cons]
      by_cases hname : name ∈ names
      · rw [if_pos hname, if_pos hname]
      · have hne : entry.1 ≠ name := fun h => hname (h ▸ hgone)
        rw [if_neg hname, if_neg hname, if_neg hne]
    · have herase : erase (entry :: rest) names = entry :: erase rest names := by
        simp [erase, hgone]
      rw [herase, get?_cons, ih, get?_cons]
      by_cases hname : entry.1 = name
      · rw [if_pos hname, if_pos hname, if_neg (hname ▸ hgone)]
      · rw [if_neg hname, if_neg hname]

theorem erase_eq_self_iff {fields : Fields} {names : List Text} :
    fields.erase names = fields ↔ ∀ name ∈ names, fields.get? name = none := by
  simp only [erase, List.filter_eq_self, get?_eq_none_iff, Bool.not_eq_true',
    List.contains_eq_mem, decide_eq_false_iff_not]
  constructor
  · intro h name hname entry hentry heq
    exact h entry hentry (heq ▸ hname)
  · intro h entry hentry hname
    exact h entry.1 hname entry hentry rfl

end Fields

inductive Ending where
  | finished
  | raised
  deriving DecidableEq

inductive Script where
  | done
  /-- An exception. Every block around it is left, up to an attempt. -/
  | raise
  | block (fields : Fields) (inside after : Script)
  /-- An exception from inside goes no further. -/
  | attempt (inside after : Script)

namespace Script

/-- Enters and leaves the blocks of a script. A block is left when all inside it has been left, with
an exception under way or without, and then the exception goes on. -/
def run : Script → Blocks → Except LeaveFault (Blocks × Ending)
  | done, blocks => return (blocks, .finished)
  | raise, blocks => return (blocks, .raised)
  | block fields inside after, blocks => do
    let (inner, ending) ← inside.run (blocks.enter fields)
    let left ← inner.leave (-1)
    match ending with
    | .finished => after.run left
    | .raised => return (left, .raised)
  | attempt inside after, blocks => do
    let (caught, _) ← inside.run blocks
    after.run caught

def ending : Script → Ending
  | done => .finished
  | raise => .raised
  | block _ inside after =>
    match inside.ending with
    | .finished => after.ending
    | .raised => .raised
  | attempt _ after => after.ending

def bound : Script → List Text
  | done => []
  | raise => []
  | block fields inside after =>
    fields.map (·.1) ++ inside.bound ++
      match inside.ending with
      | .finished => after.bound
      | .raised => []
  | attempt inside after => inside.bound ++ after.bound

end Script

theorem Blocks.leave_last (context : Context) (entered : List Fields) (fields : Fields) :
    Blocks.leave ⟨context, entered ++ [fields]⟩ (-1) = .ok ⟨context.leave fields, entered⟩ := by
  have hplace : (-1 + ((entered ++ [fields]).length : Int)) = entered.length := by
    simp only [List.length_append, List.length_singleton]
    omega
  have hnone : ¬(entered.length : Int) < 0 := by omega
  have hrest : (entered ++ [fields]).eraseIdx entered.length = entered := by
    rw [List.eraseIdx_append_of_length_le (Nat.le_refl _), Nat.sub_self]
    exact List.append_nil entered
  simp only [leave, hplace]
  simp [hnone, hrest]

/-- A block that is left when other names have gone inside it takes along all that it bound. -/
theorem Context.leave_enter (context : Context) (fields : Fields) (names : List Text) :
    Context.leave (Fields.erase (context.enter fields) names) fields =
      Fields.erase context (fields.map (·.1) ++ names) := by
  have hcongr : ∀ name, name ∈ names ++ fields.map (·.1) ↔ name ∈ fields.map (·.1) ++ names := by
    intro name
    rw [List.mem_append, List.mem_append, or_comm]
  have hnames : ∀ entry ∈ fields, entry.1 ∈ fields.map (·.1) ++ names := by
    intro entry hentry
    exact List.mem_append_left names (List.mem_map_of_mem hentry)
  rw [Context.leave, Context.enter, Fields.erase_erase, Fields.erase_congr hcongr,
    Fields.erase_update hnames]

/-- Properly nested blocks can always be left, and all they do to the context is to unbind names. -/
theorem Script.run_eq (s : Script) (context : Context) (entered : List Fields) :
    s.run ⟨context, entered⟩ = .ok (⟨Fields.erase context s.bound, entered⟩, s.ending) := by
  induction s generalizing context entered with
  | done => rw [bound, Fields.erase_nil]; rfl
  | raise => rw [bound, Fields.erase_nil]; rfl
  | block fields inside after ihInside ihAfter =>
    have hinside := ihInside (context.enter fields) (entered ++ [fields])
    have hleft :=
      Blocks.leave_last (Fields.erase (context.enter fields) inside.bound) entered fields
    rw [Context.leave_enter] at hleft
    simp only [run, Blocks.enter, hinside, hleft, bind, Except.bind, ending, bound]
    cases inside.ending with
    | finished => simp only [ihAfter, Fields.erase_erase]
    | raised =>
      rw [List.append_nil]
      rfl
  | attempt inside after ihInside ihAfter =>
    simp only [run, ihInside, ihAfter, bind, Except.bind, ending, bound, Fields.erase_erase]

end Log

namespace Query

open Log

theorem operate_context {α : Type} (operation : Text) (context : Context)
    (t : Traced Observation α) :
    (operate operation context t).context = Fields.erase context ["operation"] := by
  have h := Context.leave_enter context (operationBlock operation) []
  rw [Fields.erase_nil] at h
  exact h

/-- When a block ends, by itself or by an exception and with any blocks in it, the fields whose
names were bound on the way are gone and all others are as they were. So the context is the one from
before exactly if it had no field of these names, and an operation on a collection gives its context
back exactly if no operation was bound in it. -/
theorem block_restores_iff {α κ ν : Type} (blocks : Blocks) (fields : Fields) (inside : Script)
    (context : Context) (e : Expr) (candidate : α → Option Candidate) (candidates : List α)
    (default : α) (key : κ → Option Candidate) (value : ν → Option Candidate)
    (entries : List (κ × ν)) :
    (∃ after, (Script.block fields inside .done).run blocks = .ok (after, inside.ending) ∧
      after.entered = blocks.entered ∧
      (∀ name, Fields.get? after.context name =
        if name ∈ fields.map (·.1) ++ inside.bound then none
        else Fields.get? blocks.context name) ∧
      (after.context = blocks.context ↔
        ∀ name ∈ fields.map (·.1) ++ inside.bound, Fields.get? blocks.context name = none)) ∧
    ∀ after ∈ [(filterCandidates context candidate e candidates).context,
        (filterKeys context key e entries).context, (filterValues context value e entries).context,
        (firstOrDefault context candidate e candidates default).context,
        (firstMatch context candidate e candidates).context],
      after = Fields.erase context ["operation"] ∧
        (after = context ↔ Fields.get? context "operation" = none) := by
  constructor
  · have hending : (Script.block fields inside .done).ending = inside.ending := by
      rw [Script.ending]
      cases inside.ending <;> rfl
    have hbound : (Script.block fields inside .done).bound =
        fields.map (·.1) ++ inside.bound := by
      rw [Script.bound]
      cases inside.ending <;> exact List.append_nil _
    have hrun := Script.run_eq (.block fields inside .done) blocks.context blocks.entered
    rw [hending, hbound] at hrun
    exact ⟨_, hrun, rfl, Fields.get?_erase _ _, Fields.erase_eq_self_iff⟩
  · intro after hafter
    have herase : after = Fields.erase context ["operation"] := by
      simp only [List.mem_cons, List.not_mem_nil, or_false] at hafter
      rcases hafter with rfl | rfl | rfl | rfl | rfl
      · exact operate_context "filter_credentials" context (selectAll candidate e candidates)
      · exact operate_context "filter_keys" context (selectKeys key e entries)
      · exact operate_context "filter_values" context (selectValues value e entries)
      · exact operate_context "first_match" context (selectFirst candidate e candidates)
      · exact operate_context "first_match" context (selectFirst candidate e candidates)
    refine ⟨herase, ?_⟩
    rw [herase, Fields.erase_eq_self_iff]
    simp

theorem block_restores_iff_raised :
    ∃ after, (Script.block (operationBlock "import")
        (.block [("store", .text "system")] .raise .done) .done).run
          ⟨[(Text.ofString "request", .int 7)], []⟩ = .ok (after, .raised) ∧
      after.context = [(Text.ofString "request", .int 7)] := by
  have h := @block_restores_iff Unit Unit Unit ⟨[(Text.ofString "request", .int 7)], []⟩
    (operationBlock "import") (.block [("store", .text "system")] .raise .done) [] .always
    (fun _ => none) [] () (fun _ => none) (fun _ => none) []
  obtain ⟨⟨after, hrun, -, -, hiff⟩, -⟩ := h
  exact ⟨after, hrun, hiff.mpr (by decide)⟩

/-- An operation inside a block that names another one: the outer name is lost. -/
theorem inner_block_unbinds :
    (Script.block (operationBlock "filter_credentials") .done .done).run
        ⟨operationBlock "import", []⟩ = .ok (⟨[], []⟩, .finished) ∧
      (filterCandidates (operationBlock "import") id .always []).context ≠
        operationBlock "import" :=
  ⟨rfl, by decide⟩

end Query

end Keyring
