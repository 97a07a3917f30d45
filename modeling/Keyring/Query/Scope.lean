import Keyring.Text.CodePoint

/-!
# Scopes

Where a credential is visible, and sets of scopes. A set has no order of its own; its members are
listed in the order in which the scopes are declared.
-/

namespace Keyring

inductive Scope where
  | system
  | global
  | user
  | node
  deriving DecidableEq, Hashable

namespace Scope

def all : List Scope := [system, global, user, node]

def name : Scope → Text
  | system => "SYSTEM"
  | global => "GLOBAL"
  | user => "USER"
  | node => "NODE"

def displayName : Scope → Text
  | system => "System (the service and its agents only)"
  | global => "Global (the service, its agents and all items)"
  | user => "User"
  | node => "Node (this agent only)"

/-- The scope whose name is the last segment of a text. -/
def ofName? (t : Text) : Option Scope :=
  all.find? fun s => s.name == t.lastSegment

end Scope

structure ScopeSet where
  system : Bool
  global : Bool
  user : Bool
  node : Bool
  deriving DecidableEq, Hashable

namespace ScopeSet

def empty : ScopeSet := ⟨false, false, false, false⟩

def contains (set : ScopeSet) : Scope → Bool
  | .system => set.system
  | .global => set.global
  | .user => set.user
  | .node => set.node

def insert (set : ScopeSet) : Scope → ScopeSet
  | .system => { set with system := true }
  | .global => { set with global := true }
  | .user => { set with user := true }
  | .node => { set with node := true }

def ofList (scopes : List Scope) : ScopeSet :=
  scopes.foldl insert empty

def toList (set : ScopeSet) : List Scope :=
  Scope.all.filter set.contains

end ScopeSet

end Keyring
