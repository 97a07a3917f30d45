import Keyring.Query.Matching

/-!
# Selections

The entries of a collection that a query holds of. Entries without a candidate are passed over.
While a selection is made, the name of the operation is bound to the log context.
-/

namespace Keyring.Query

variable {α κ ν : Type}

def accepts (e : Expr) : Option Candidate → Traced Observation Bool
  | none => return false
  | some candidate => evaluate e candidate

def selectAll (candidate : α → Option Candidate) (e : Expr) : List α → Traced Observation (List α)
  | [] => return []
  | a :: rest => do
    let accepted ← accepts e (candidate a)
    let others ← selectAll candidate e rest
    return if accepted then a :: others else others

def selectKeys (candidate : κ → Option Candidate) (e : Expr) (entries : List (κ × ν)) :
    Traced Observation (List (κ × ν)) :=
  selectAll (fun entry => candidate entry.1) e entries

def selectValues (candidate : ν → Option Candidate) (e : Expr) (entries : List (κ × ν)) :
    Traced Observation (List (κ × ν)) :=
  selectAll (fun entry => candidate entry.2) e entries

/-- The first member of a list whose candidate is accepted; no later one is asked. -/
def selectFirst (candidate : α → Option Candidate) (e : Expr) :
    List α → Traced Observation (Option α)
  | [] => return none
  | a :: rest => do
    let accepted ← accepts e (candidate a)
    if accepted then return some a else selectFirst candidate e rest

/-- What an operation made of a log context: its answer, what the candidates were asked, the records
logged, and the context after it. -/
structure Operated (α : Type) where
  value : α
  observations : List Observation
  records : List Log.Fields
  context : Log.Context

def operationBlock (operation : Text) : Log.Fields :=
  [("operation", .text operation)]

def operate (operation : Text) (context : Log.Context) (t : Traced Observation α) : Operated α :=
  let block := operationBlock operation
  ⟨t.value, t.trace, (t.trace.filterMap Observation.event?).map (·.record (context.enter block)),
    (context.enter block).leave block⟩

def filterCandidates (context : Log.Context) (candidate : α → Option Candidate) (e : Expr)
    (candidates : List α) : Operated (List α) :=
  operate "filter_credentials" context (selectAll candidate e candidates)

/-- The entries of a mapping whose key is a matching candidate. -/
def filterKeys (context : Log.Context) (candidate : κ → Option Candidate) (e : Expr)
    (entries : List (κ × ν)) : Operated (List (κ × ν)) :=
  operate "filter_keys" context (selectKeys candidate e entries)

def filterValues (context : Log.Context) (candidate : ν → Option Candidate) (e : Expr)
    (entries : List (κ × ν)) : Operated (List (κ × ν)) :=
  operate "filter_values" context (selectValues candidate e entries)

def firstMatch (context : Log.Context) (candidate : α → Option Candidate) (e : Expr)
    (candidates : List α) : Operated (Option α) :=
  operate "first_match" context (selectFirst candidate e candidates)

def firstOrDefault (context : Log.Context) (candidate : α → Option Candidate) (e : Expr)
    (candidates : List α) (default : α) : Operated α :=
  let first := firstMatch context candidate e candidates
  ⟨first.value.getD default, first.observations, first.records, first.context⟩

end Keyring.Query
