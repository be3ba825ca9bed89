import Wikidown.Text.Digit

/-!
Placeholders stand for the parts of a document that the rules of the layout must not see. Each kind
of part has its own numbering, and the store keeps the parts of a kind in the order of their
numbers.
-/

namespace Wikidown

set_option autoImplicit false

/-- The kinds of parts that placeholders stand for. -/
inductive Kind where
  | code
  | quote
  | paragraph
deriving DecidableEq, Repr

namespace Kind

def label : Kind → Text
  | .code => "BACKLOG2MD_CODE".toList
  | .quote => "BACKLOG2MD_QUOTE".toList
  | .paragraph => "BACKLOG2MD_PARAGRAPH".toList

/-- What every placeholder of a kind begins with, up to its number. -/
def opening (kind : Kind) : Text := "\x7b\x7b".toList ++ kind.label ++ ['-']

end Kind

def tokenClosing : Text := "\x7d\x7d".toList

/-- The placeholder of the part with the number `index`. -/
def token (kind : Kind) (index : Nat) : Text :=
  kind.opening ++ decimalText index ++ tokenClosing

/-- The parts that placeholders stand for, by kind. -/
structure Store where
  code : List Text := []
  quote : List Text := []
  paragraph : List Text := []
deriving DecidableEq, Repr

namespace Store

def empty : Store := {}

def parts (store : Store) : Kind → List Text
  | .code => store.code
  | .quote => store.quote
  | .paragraph => store.paragraph

def count (store : Store) (kind : Kind) : Nat := (store.parts kind).length

/-- Keep one more part; its number is the count of its kind before. -/
def add (store : Store) (kind : Kind) (content : Text) : Store :=
  match kind with
  | .code => { store with code := store.code ++ [content] }
  | .quote => { store with quote := store.quote ++ [content] }
  | .paragraph => { store with paragraph := store.paragraph ++ [content] }

/-- The part with a given number; no part has a negative one. -/
def get? (store : Store) (kind : Kind) (index : Int) : Option Text :=
  if index < 0 then none else (store.parts kind)[index.toNat]?

theorem parts_add (store : Store) (kind other : Kind) (content : Text) :
    (store.add kind content).parts other =
      if kind = other then store.parts other ++ [content] else store.parts other := by
  cases kind <;> cases other <;> rfl

end Store

end Wikidown
