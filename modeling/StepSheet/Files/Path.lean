import StepSheet.Text.Blank

/-!
# Paths

A path is a text whose parts are separated by slashes. Repeated slashes, and a
single dot behind another part or at the root, add nothing to the parts; a dot
in front and two dots anywhere are parts of their own. Joining puts one slash
between the two sides, and an absolute right side takes the place of the left.
-/

namespace StepSheet

/-- A path as written. -/
structure Path where
  text : String
deriving DecidableEq, Inhabited

namespace Path

/-- A part of a path. -/
inductive Component where
  | root
  | current
  | parent
  | normal (name : String)
deriving DecidableEq

def Component.text : Component → String
  | .root => "/"
  | .current => "."
  | .parent => ".."
  | .normal name => name

def isAbsolute (p : Path) : Bool := p.text.toList.head? = some '/'

def isEmpty (p : Path) : Bool := p.text.toList.isEmpty

/-- The part that a piece between slashes is, behind another part. -/
def component? (piece : String) : Option Component :=
  if piece = "" || piece = "." then none
  else if piece = ".." then some .parent
  else some (.normal piece)

def components (p : Path) : List Component :=
  let pieces := Text.splitOn '/' p.text
  let front : List Component :=
    if p.isAbsolute then [.root] else if pieces.head? = some "." then [.current] else []
  front ++ pieces.filterMap component?

/-- A path followed by another one below it. -/
def join (base next : Path) : Path :=
  if next.isAbsolute then next
  else if base.isEmpty || base.text.toList.getLast? = some '/' then ⟨base.text ++ next.text⟩
  else ⟨base.text ++ "/" ++ next.text⟩

/-- A path followed by a file or directory name. -/
def child (base : Path) (name : String) : Path := base.join ⟨name⟩

/-- The path of parts, each joined to those before it. -/
def ofComponents (parts : List Component) : Path :=
  parts.foldl (fun p part => p.child part.text) ⟨""⟩

/-- What two lists have before the first place where they differ, dropped from both. -/
def dropCommon : List Component → List Component → List Component × List Component
  | a :: as, b :: bs => if a = b then dropCommon as bs else (a :: as, b :: bs)
  | as, bs => (as, bs)

/-- The path that leads from the directory `base` to `p`: up to what both share, and
down from there. -/
def relativeTo (p base : Path) : Path :=
  let (down, up) := dropCommon p.components base.components
  ofComponents (List.replicate up.length .parent ++ down)

/-- The parts of a path behind those of `base`, when it starts with them all. -/
def below? (p base : Path) : Option (List Component) :=
  match dropCommon p.components base.components with
  | (rest, []) => some rest
  | _ => none

/-- The folders above a path, the nearest first, without the one that has no name. -/
def parents (p : Path) : List Path :=
  match p.components.reverse with
  | [] => []
  | _ :: above => folders above
where
  /-- The paths that end with each of the parts, given in reverse, in this order. -/
  folders : List Component → List Path
    | [] => []
    | part :: above => ofComponents (part :: above).reverse :: folders above

/-- The folder above a path, unless it has none or one without a name. -/
def parent? (p : Path) : Option Path := p.parents.head?

def fileName? (p : Path) : Option String :=
  match p.components.getLast? with
  | some (.normal name) => some name
  | _ => none

/-- What stands behind the last dot of the name at the end of a path, unless the
dot is its first character. -/
def extension? (p : Path) : Option String :=
  match p.fileName? with
  | none => none
  | some name =>
    match (Text.splitOn '.' name).reverse with
    | last :: _ :: _ =>
      if Text.size name = Text.size last + 1 then none else some last
    | _ => none

@[simp] theorem join_absolute {base next : Path} (h : next.isAbsolute) : base.join next = next := by
  simp [join, h]

@[simp] theorem dropCommon_self (parts : List Component) : dropCommon parts parts = ([], []) := by
  induction parts with
  | nil => simp [dropCommon]
  | cons a parts ih => simp [dropCommon, ih]

theorem dropCommon_append (front as bs : List Component) :
    dropCommon (front ++ as) (front ++ bs) = dropCommon as bs := by
  induction front with
  | nil => rfl
  | cons a front ih => simp [dropCommon, ih]

end Path

end StepSheet
