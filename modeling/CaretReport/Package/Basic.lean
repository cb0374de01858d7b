import CaretReport.Text.Quoted
import CaretReport.Utf8.Strict

/-!
# What a package says about itself

A package is described by three files and by constants. A file is read as text: its bytes have to
encode one, and every line end becomes a line feed.

The version is stated in a source file of the package, on a line that starts with `__version__`: an
equals sign and the version in quotation marks, with blanks between them as one likes. The first
statement counts. Each line of the requirements is one entry, without the blanks around it; empty
lines and lines that start with a number sign are none.
-/

namespace CaretReport.Package

/-! ### Files -/

inductive File where
  | missing
  | directory
  | content (data : Bytes)

inductive File.Fault where
  | missing (path : Text)
  | directory (path : Text)
  | malformed (e : Utf8.Malformed)

def File.Fault.exception : File.Fault → Exception
  | .missing path => .of .fileNotFound ("[Errno 2] No such file or directory: " ++ path.quoted)
  | .directory path => .of .isDirectory ("[Errno 21] Is a directory: " ++ path.quoted)
  | .malformed e => e.exception

def File.read (path : Text) : File → Except File.Fault Text
  | .missing => .error (.missing path)
  | .directory => .error (.directory path)
  | .content data => match Utf8.read data with
    | .ok t => .ok t.unifyNewlines
    | .error e => .error (.malformed e)

/-- The text of a file, or a default if there is no file. -/
def File.readOr {α : Type} (path : Text) (default : α) (use : Text → α) (f : File) :
    Except File.Fault α :=
  match f with
  | .missing => .ok default
  | f => use <$> f.read path

/-! ### The version -/

def versionName : Text := "__version__"

/-- What stands behind `start` in a text that starts with it. -/
def after? (start t : Text) : Option Text :=
  if t.take start.length = start then some (t.drop start.length) else none

/-- The version that a text states at its very start. -/
def statedVersion? (t : Text) : Option Text := do
  let t ← after? versionName t
  let t ← after? "=" (t.dropWhile CodePoint.isBlank)
  let t ← after? [.quotationMark] (t.dropWhile CodePoint.isBlank)
  let version := t.takeWhile (· ≠ .quotationMark)
  if version.isEmpty || t.length = version.length then none else some version

/-- The version that is stated first at the start of a line; `lineStart` says whether the text
itself starts a line. -/
def findVersion? (lineStart : Bool) : Text → Option Text
  | [] => none
  | c :: rest =>
    (if lineStart then statedVersion? (c :: rest) else none) <|> findVersion? (c = '\n') rest

def noVersion : Text := "0.0.0"

def versionIn (t : Text) : Text := (findVersion? true t).getD noVersion

def versionPath : Text := "<root>/lintreport/__init__.py"

def File.version (f : File) : Except File.Fault Text := versionIn <$> f.read versionPath

/-! ### Description and requirements -/

def descriptionPath : Text := "<root>/README.md"

/-- The description of a package; empty if it has no file of it. -/
def File.description (f : File) : Except File.Fault Text := f.readOr descriptionPath [] id

def isEntry (line : Text) : Bool :=
  match line with
  | [] => false
  | c :: _ => c ≠ '#'

def entries (t : Text) : List Text := (t.lines.map Text.trim).filter isEntry

def requirementsPath : Text := "<root>/requirements.txt"

/-- The requirements of a package; none if it has no file of them. -/
def File.requirements (f : File) : Except File.Fault (List Text) :=
  f.readOr requirementsPath [] entries

/-! ### Metadata -/

structure Metadata where
  name : Text := "lintreport"
  version : Text
  description : Text :=
    "Human-readable terminal reports for lint diagnostics, with " ++
      "display-width aware source snippets and caret indicators."
  longDescription : Text
  longDescriptionType : Text := "text/markdown"
  license : Text := "MIT"
  author : Text := "lintreport contributors"
  interpreter : Text := ">=3.10"
  packages : List Text
  requirements : List Text
  /-- Further requirements, by the purpose that needs them. -/
  extras : List (Text × List Text) :=
    [("dev", ["pytest>=7.0", "pytest-cov>=4.0", "ruff>=0.4", "mypy>=1.10"])]
  classifiers : List Text := [
    "Development Status :: 3 - Alpha",
    "Intended Audience :: Developers",
    "License :: OSI Approved :: MIT License",
    "Operating System :: OS Independent",
    "Programming Language :: Python :: 3",
    "Programming Language :: Python :: 3.10",
    "Programming Language :: Python :: 3.11",
    "Programming Language :: Python :: 3.12",
    "Programming Language :: Python :: 3.13",
    "Topic :: Software Development :: Quality Assurance",
    "Topic :: Terminals"]
  keywords : List Text := ["lint", "diagnostics", "terminal", "unicode"]
  zipSafe : Bool := false

/-- The metadata from the files of a package. `find` gives the packages of the project whose names
match one of the first patterns and none of the second. -/
def metadata (find : List Text → List Text → List Text) (source readme needs : File) :
    Except File.Fault Metadata := do
  let version ← source.version
  let longDescription ← readme.description
  let packages := find ["lintreport", "lintreport.*"] ["tests", "tests.*"]
  let requirements ← needs.requirements
  pure { version, longDescription, packages, requirements }

end CaretReport.Package
