import ChartOperator.Text.Utf8

/-!
# Paths

A path is a sequence of bytes in which slashes separate the names of directories and files.
Messages show it as text.
-/

namespace ChartOperator

/-- A path in a file tree. -/
structure Path where
  bytes : Bytes
  deriving DecidableEq

namespace Path

/-- The byte that separates the names of a path. -/
def slash : UInt8 := 0x2F

/-- The path with the given text. -/
def ofString (s : String) : Path := ⟨Utf8.ofString s⟩

/-- The text of a path; ill-formed bytes show as replacement characters. -/
def display (path : Path) : String := String.ofList (Utf8.decodeLossy path.bytes)

/-- Whether a path starts at the root and not at the working directory. -/
def isAbsolute (path : Path) : Bool := path.bytes.head? == some slash

/-- The path of a name inside the directory with the given path. -/
def join (path : Path) (name : Bytes) : Path :=
  if path.bytes.isEmpty || path.bytes.getLast? == some slash then ⟨path.bytes ++ name⟩
  else ⟨path.bytes ++ slash :: name⟩

/-- The path of a named entry inside the directory with the given path. -/
def joinName (path : Path) (name : String) : Path :=
  path.join (Utf8.ofString name)

theorem length_lt_length_join (path : Path) {name : Bytes} (h : name ≠ []) :
    path.bytes.length < (path.join name).bytes.length := by
  have hpos := List.length_pos_iff.mpr h
  unfold join
  split
  · rw [List.length_append]
    omega
  · rw [List.length_append, List.length_cons]
    omega

/-- The names between the slashes of a path, empty ones included. -/
def components : Bytes → List Bytes
  | [] => [[]]
  | b :: rest =>
      if b = slash then [] :: components rest
      else
        match components rest with
        | [] => [[b]]
        | name :: names => (b :: name) :: names

end Path

/-- Why a file or directory cannot be used. -/
inductive FileError where
  | notFound
  | notADirectory
  | isADirectory
  | tooManyLinks
  | nameTooLong
  | zeroByteInName
  | invalidText
  deriving DecidableEq

/-- The wording of a file error. -/
def FileError.message : FileError → String
  | .notFound => "No such file or directory (os error 2)"
  | .notADirectory => "Not a directory (os error 20)"
  | .isADirectory => "Is a directory (os error 21)"
  | .tooManyLinks => "Too many levels of symbolic links (os error 40)"
  | .nameTooLong => "File name too long (os error 36)"
  | .zeroByteInName => "file name contained an unexpected NUL byte"
  | .invalidText => "stream did not contain valid UTF-8"

end ChartOperator
