import AppResources.Fault
import AppResources.Keyed
import AppResources.Source

/-!
# Input files

A value may point at the input that it was compiled from.  A **file set**
registers inputs by path: registering a path twice gives the handle of the first
time, and the files are listed by path.  Opening a file gives its **contents**,
of which a slice may be read when it lies within them.
-/

namespace AppResources

/-- A registered input. -/
structure InputFile where
  /-- Where the file lies. -/
  source : Source
  /-- The number of the handle within its set. -/
  handle : Nat
  deriving DecidableEq

/-- Registered inputs, by path. -/
structure FileSet where
  /-- The files, in path order. -/
  files : Keyed String InputFile := []

namespace FileSet

/-- The number of files. -/
def size (s : FileSet) : Nat := s.files.length

/-- The file registered for a path. -/
def find? (s : FileSet) (path : String) : Option InputFile := s.files.get? path

/-- The file for a path, which is registered if it is not yet. -/
def insert (s : FileSet) (path : String) : FileSet × InputFile :=
  match s.find? path with
  | some file => (s, file)
  | none =>
    let file := ⟨{ path }, s.size⟩
    (⟨s.files.update path fun _ => file⟩, file)

/-- The places of all files, by path. -/
def sources (s : FileSet) : List Source := s.files.map fun item => item.2.source

end FileSet

/-- The bytes of an opened file. -/
structure Contents where
  /-- The bytes. -/
  bytes : List UInt8

namespace Contents

/-- The number of bytes. -/
def size (c : Contents) : Nat := c.bytes.length

/-- The bytes from `offset` on, `length` of them, when the file has them all. -/
def slice (c : Contents) (offset length : Nat) : Except Fault (List UInt8) :=
  if offset + length ≤ c.size then .ok ((c.bytes.drop offset).take length)
  else .error .outOfBounds

end Contents

end AppResources
