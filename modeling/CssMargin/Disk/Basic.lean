/-
# The disk

Files and directories as far as a run can see them: a finite list of places with what is there, and
the working directory.  A path is followed part by part; every part but the last has to lead to a
directory.  The root and everything on the way to the working directory are directories.

The system knows names as bytes.  A byte that belongs to no character is a second half of a
surrogate pair in a text, from U+DC80 to U+DCFF; a path with any other half names nothing.
-/
import CssMargin.Disk.Path
import CssMargin.Text.Literal
namespace CssMargin

/-- The name of a file or a directory. -/
structure FileName where
  /-- The bytes. -/
  bytes : List UInt8
deriving DecidableEq, Repr

/-- The name that characters spell. -/
instance : Coe String FileName := ⟨fun s => ⟨Text.encodeUtf8 s.toList⟩⟩

/-- A place on the disk: the names on the way from its root. -/
abbrev Location := List FileName

/-- What can be at a place. -/
inductive Entry where
  /-- A file with its content. -/
  | file (bytes : List UInt8)
  /-- A directory. -/
  | directory
deriving DecidableEq, Repr

/-- The files and directories. -/
structure Disk where
  /-- The working directory. -/
  here : Location
  /-- What is where. -/
  entries : List (Location × Entry)
deriving Repr

/-- The ways in which the system refuses. -/
inductive Refusal where
  /-- There is nothing. -/
  | noEntry
  /-- There is something already. -/
  | occupied
  /-- A directory is needed. -/
  | notDirectory
  /-- A directory is not wanted. -/
  | isDirectory
  /-- A name or a path is too long. -/
  | nameTooLong
deriving DecidableEq, Repr

/-- The number of a refusal. -/
def Refusal.number : Refusal → Nat
  | .noEntry => 2
  | .occupied => 17
  | .notDirectory => 20
  | .isDirectory => 21
  | .nameTooLong => 36

/-- The wording of a refusal. -/
def Refusal.text : Refusal → String
  | .noEntry => "No such file or directory"
  | .occupied => "File exists"
  | .notDirectory => "Not a directory"
  | .isDirectory => "Is a directory"
  | .nameTooLong => "File name too long"

/-- Why an operation on the disk fails. -/
inductive DiskFault where
  /-- The system refuses a path. -/
  | refused (why : Refusal) (path : Text)
  /-- A path holds halves of surrogate pairs that stand for no byte. -/
  | stray (x : Text.Stray)
  /-- A path holds a NUL character, which the system never sees. -/
  | nul
deriving DecidableEq, Repr

/-- The report of a fault. -/
def DiskFault.message : DiskFault → String
  | .refused why path =>
    "[Errno " ++ toString why.number ++ "] " ++ why.text ++ ": " ++ Text.literal path
  | .stray x => x.message
  | .nul => "embedded null byte"

/-! ### Names as bytes -/

/-- Whether a half stands for a byte. -/
def Half.isByte (h : Half) : Bool := 0xDC80 ≤ h.position && h.position < 0xDD00

/-- The bytes of a point in a name. -/
def Point.bytes : Point → List UInt8
  | .char c => String.utf8EncodeChar c
  | .half h => [UInt8.ofNat h.position]

/-- The bytes of a text in a name. -/
def Text.bytes (t : Text) : List UInt8 := t.points.flatMap Point.bytes

namespace Disk

/-- What is at a place. -/
def at? (d : Disk) (l : Location) : Option Entry :=
  match d.entries.lookup l with
  | some e => some e
  -- the directory that paths start from exists, and so do those around it
  | none => if l.isPrefixOf d.here then some .directory else none

/-- Put something at a place. -/
def put (l : Location) (e : Entry) (d : Disk) : Disk :=
  { d with entries := (l, e) :: d.entries.filter (·.1 ≠ l) }

@[simp] theorem at?_put_self (d : Disk) (l : Location) (e : Entry) :
    (d.put l e).at? l = some e := by
  simp [at?, put]

theorem at?_put_of_ne {d : Disk} {l k : Location} (h : k ≠ l) (e : Entry) :
    (d.put l e).at? k = d.at? k := by
  have hk : (k == l) = false := by simpa using h
  have hl : (d.entries.filter (·.1 ≠ l)).lookup k = d.entries.lookup k := by
    induction d.entries with
    | nil => rfl
    | cons x r ih =>
      obtain ⟨m, e'⟩ := x
      by_cases hm : m = l
      · subst hm
        simp only [ne_eq, not_true_eq_false, decide_false, Bool.false_eq_true, not_false_eq_true,
          List.filter_cons_of_neg, List.lookup_cons, hk]
        exact ih
      · rw [List.filter_cons_of_pos (by simpa using hm)]
        simp only [List.lookup_cons]
        rw [ih]
  simp only [at?, put, List.lookup_cons, hk, hl]
  rfl

/-- The longest name, in bytes. -/
def nameLimit : Nat := 255

/-- The longest path, in bytes. -/
def pathLimit : Nat := 4095

/-- Follow parts from a place: every part but the last has to lead to a directory. -/
def follow (d : Disk) : Location → List Text → Except Refusal Location
  | l, [] => .ok l
  | l, part :: r =>
    match d.at? l with
    | none => .error .noEntry
    | some (.file _) => .error .notDirectory
    | some .directory =>
      if nameLimit < part.bytes.length then .error .nameTooLong
      else d.follow (if part = ".." then l.dropLast else l ++ [⟨part.bytes⟩]) r

/-- The place that a path leads to. -/
def locate (d : Disk) (p : Path) : Except DiskFault Location :=
  match Text.findStray (fun h => !h.isByte) 0 p.text.points with
  | some x => .error (.stray x)
  | none =>
    if p.text.points.contains (.char '\x00') then .error .nul
    else if pathLimit < p.text.bytes.length then .error (.refused .nameTooLong p.text)
    else match d.follow (if p.isAbsolute then [] else d.here) p.parts with
      | .ok l => .ok l
      | .error why => .error (.refused why p.text)

/-- The place that a path leads to, when there is something. -/
def find (d : Disk) (p : Path) : Except DiskFault (Location × Entry) := do
  let l ← d.locate p
  match d.at? l with
  | some e => .ok (l, e)
  | none => .error (.refused .noEntry p.text)

/-- Whether there is something at a path; only a path that is too long cannot be answered. -/
def has (d : Disk) (p : Path) : Except DiskFault Bool :=
  match d.find p with
  | .ok _ => .ok true
  | .error (.refused .nameTooLong path) => .error (.refused .nameTooLong path)
  | .error _ => .ok false

/-- Whether there is a directory at a path. -/
def hasDirectory (d : Disk) (p : Path) : Bool :=
  match d.find p with
  | .ok (_, .directory) => true
  | _ => false

/-- The content of the file at a path. -/
def readFile (d : Disk) (p : Path) : Except DiskFault (List UInt8) := do
  match ← d.find p with
  | (_, .file bytes) => .ok bytes
  | (_, .directory) => .error (.refused .isDirectory p.text)

/-- Make a directory. -/
def makeDirectory (d : Disk) (p : Path) : Except DiskFault Disk := do
  let l ← d.locate p
  match d.at? l with
  | some _ => .error (.refused .occupied p.text)
  | none => .ok (d.put l .directory)

/-- Make a directory together with those it is in, as far as they are missing; a directory that is
there already is left alone.  What was made before a failure stays. -/
def makeDirectories : (fuel : Nat) → Disk → Path → Except DiskFault Unit × Disk
  | 0, d, _ => (.ok (), d)
  | fuel + 1, d, p =>
    match d.makeDirectory p with
    | .ok d => (.ok (), d)
    | .error (.refused .noEntry path) =>
      if p.parent = p then (.error (.refused .noEntry path), d)
      else
        -- make the directory around it first, then try again
        match makeDirectories fuel d p.parent with
        | (.error f, d) => (.error f, d)
        | (.ok (), d) =>
          match d.makeDirectory p with
          | .ok d => (.ok (), d)
          | .error f => (if d.hasDirectory p then .ok () else .error f, d)
    | .error .nul => (.error .nul, d)
    | .error (.stray x) => (.error (.stray x), d)
    | .error f => (if d.hasDirectory p then .ok () else .error f, d)

/-- Write a file; its directory has to exist. -/
def writeFile (d : Disk) (p : Path) (bytes : List UInt8) : Except DiskFault Disk := do
  let l ← d.locate p
  match d.at? l with
  | some .directory => .error (.refused .isDirectory p.text)
  | _ => .ok (d.put l (.file bytes))

end Disk

end CssMargin
