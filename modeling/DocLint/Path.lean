import DocLint.Text.Basic

/-!
# Paths

A path is a text with slashes between its steps. Empty steps do not count, and neither does `.`
except at the beginning, so paths of different spelling may have the same steps. Paths are compared
by their steps and printed as they are spelled.
-/

namespace DocLint.Path

/-- A step of a path. -/
inductive Step where
  | root
  | here
  | up
  | name (t : Text)
  deriving DecidableEq, Repr

/-- Whether a piece between slashes is a step. -/
def isStep (isFirst : Bool) (piece : Text) : Bool :=
  !piece.isEmpty && (isFirst || piece != ['.'])

/-- The pieces between the slashes, each with whether it is a step. -/
def pieces (p : Text) : List (Text × Bool) :=
  match Text.splitAt '/' p with
  | [] => []
  | first :: more => (first, isStep true first) :: more.map fun piece => (piece, isStep false piece)

def Step.ofPiece (piece : Text) : Step :=
  if piece == ['.'] then .here else if piece == ['.', '.'] then .up else .name piece

def isAbsolute (p : Text) : Bool :=
  p.head? == some '/'

def steps (p : Text) : List Step :=
  (if isAbsolute p then [.root] else []) ++
    ((pieces p).filter Prod.snd).map fun (piece, _) => .ofPiece piece

/-- The place of the kinds of steps in the order. -/
def Step.rank : Step → Nat
  | .root => 0
  | .here => 1
  | .up => 2
  | .name _ => 3

/-- The order of steps: by kind, and names by code point. -/
def Step.compare : Step → Step → Ordering
  | .name a, .name b => Text.compare a b
  | a, b => Ord.compare a.rank b.rank

/-- The order of lists of steps: the first difference counts, and a beginning comes first. -/
def compareSteps : List Step → List Step → Ordering
  | [], [] => .eq
  | [], _ :: _ => .lt
  | _ :: _, [] => .gt
  | a :: as, b :: bs => (a.compare b).then (compareSteps as bs)

def compare (a b : Text) : Ordering :=
  compareSteps (steps a) (steps b)

/-- `a` stands before `b` or has the same steps. -/
def le (a b : Text) : Bool :=
  compare a b != .gt

/-- Drops paths with the same steps as the one before. -/
def dropRepeated : List Text → List Text
  | a :: b :: more =>
    if steps a == steps b then dropRepeated (a :: more) else a :: dropRepeated (b :: more)
  | ps => ps

/-- Paths in their order. Of paths with the same steps the first one stays. -/
def sort (ps : List Text) : List Text :=
  dropRepeated (ps.mergeSort le)

def fileName? (p : Text) : Option Text :=
  match (steps p).getLast? with
  | some (.name t) => some t
  | _ => none

/-- The path without its last step. -/
def parent? (p : Text) : Option Text :=
  match (pieces p).reverse.dropWhile fun (_, counts) => !counts with
  | [] => none
  | _ :: before =>
    -- Empty pieces and dots in front of the last step go with it.
    let kept := (before.dropWhile fun (_, counts) => !counts).reverse.map Prod.fst
    some (if isAbsolute p && kept.isEmpty then ['/'] else Text.joinWith ['/'] kept)

def join (dir p : Text) : Text :=
  if isAbsolute p then p
  else if dir.isEmpty || dir.getLast? == some '/' then dir ++ p
  else dir ++ ['/'] ++ p

end DocLint.Path
