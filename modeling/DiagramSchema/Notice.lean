import DiagramSchema.Text.Basic

/-! Notices: what the operations have to say beside their results. A result never depends on them.
-/
namespace DiagramSchema

inductive Level where
  | debug
  | info
  | warning
  | error
deriving DecidableEq, Repr

/-- The part of the library that a notice comes from. -/
inductive Component where
  | emission
  | recovery
  | storage
  | audit
  | generation
  | service
deriving DecidableEq, Repr

structure Notice where
  level : Level
  component : Component
  text : Text
deriving DecidableEq, Repr

/-- A result with the notices of the work on it, in their order. -/
structure Noted (α : Type) where
  value : α
  notices : List Notice

namespace Noted

def quiet {α : Type} (value : α) : Noted α := ⟨value, []⟩

def map {α β : Type} (f : α → β) (noted : Noted α) : Noted β := ⟨f noted.value, noted.notices⟩

end Noted
end DiagramSchema
