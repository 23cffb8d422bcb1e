import Workbench.Table
import Workbench.Text.Encoding
import Workbench.Text.Lines

/-! Source files on a disk. A file holds bytes; text is UTF-8, newlines are brought to one spelling
when read and are written as they are. -/

set_option autoImplicit false

namespace Workbench

/-- Paths that name files of one directory: neither empty nor the directory itself, leading into no other one, and
without a null character. -/
def Disk.isFileName (path : String) : Bool :=
  path != "" && path != "." && path != ".." && !path.toList.contains '/' && !path.toList.contains '\x00'

/-- Files, by the places they are kept in. A path leads to a place or, as that of a directory, to none; several paths may
lead to one place. -/
structure Disk where
  files : Table ByteArray := {}
  place? : String → Option String := fun path => if Disk.isFileName path then some path else none
  readable : String → Bool := fun _ => true
  writable : String → Bool := fun _ => true
  /-- How many bytes a place takes, if there is a bound. -/
  room? : String → Option Nat := fun _ => none

namespace Disk

def source? (disk : Disk) (path : String) : Option String := (disk.place? path).filter disk.readable

def target? (disk : Disk) (path : String) : Option String := (disk.place? path).filter disk.writable

def read? (disk : Disk) (path : String) : Option ByteArray := (disk.source? path).bind disk.files.get?

def fits (disk : Disk) (place : String) (bytes : ByteArray) : Bool :=
  (disk.room? place).all fun room => bytes.size ≤ room

def kept (disk : Disk) (place : String) (bytes : ByteArray) : ByteArray :=
  bytes.extract 0 ((disk.room? place).getD bytes.size)

def put (disk : Disk) (place : String) (bytes : ByteArray) : Disk :=
  { disk with files := disk.files.put place bytes }

/-- Whether writing worked, and the disk afterwards. A file that can be opened is emptied, and then takes as many bytes as
there is room for. -/
def write (path : String) (bytes : ByteArray) (disk : Disk) : Bool × Disk :=
  match disk.target? path with
  | some place => (disk.fits place bytes, disk.put place (disk.kept place bytes))
  | none => (false, disk)

def readText? (disk : Disk) (path : String) : Option (List Char) := do
  let text ← String.fromUTF8? (← disk.read? path)
  return Text.unifyNewlines text.toList

end Disk

/-- Something given as code: text, a text with surrogates in it, which has no encoding, or anything else, which is kept
but cannot be written. -/
inductive Content (α : Type) where
  | text (text : String)
  | unencodable (codes : Text.Codes) (surrogate : codes.any Text.isSurrogate = true)
  | other (value : α)
  deriving DecidableEq, Repr

namespace Content

variable {α : Type}

def text? : Content α → Option String
  | .text content => some content
  | .unencodable .. | .other _ => none

def isText : Content α → Bool
  | .text _ | .unencodable .. => true
  | .other _ => false

end Content

structure SourceFile (α : Type) where
  code : Content α := .text ""
  lines : List (Content α) := []
  deriving DecidableEq, Repr

namespace SourceFile

variable {α : Type}

def setCode (code : Content α) (file : SourceFile α) : SourceFile α := { file with code := code }

def setLines (lines : Option (List (Content α))) (file : SourceFile α) : SourceFile α :=
  match lines with
  | some lines => { file with lines := lines }
  | none => file

/-- Takes the lines of a file; if it cannot be read nothing changes. -/
def load? (path : String) (disk : Disk) : Option (SourceFile α) := do
  let text ← disk.readText? path
  return {
    code := .text (String.ofList text)
    lines := (Text.newlineLines text).map fun line => .text (String.ofList line) }

def terminated (line : String) : String :=
  if line.toList.getLast? == some '\n' then line else line ++ "\n"

/-- What is written for the lines. All of them are ended before the first is written, so that nothing is if one of them
is no text; otherwise they are written one by one, up to the first that has no encoding. -/
def output (file : SourceFile α) : String :=
  if file.lines.all Content.isText then
    String.join (((file.lines.takeWhile fun line => line.text?.isSome).filterMap Content.text?).map terminated)
  else ""

def save (path : String) (file : SourceFile α) (disk : Disk) : Bool × Disk :=
  let (stored, disk) := disk.write path file.output.toUTF8
  (stored && file.lines.all fun line => line.text?.isSome, disk)

end SourceFile

end Workbench
