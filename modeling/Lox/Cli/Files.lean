import Lox.Cli.Path
import Lox.Text.Newlines

set_option autoImplicit false

namespace Lox.Cli

inductive Entry where
  | missing
  | unreadable (reason : String)
  | text (content : String)
  -- The look-up itself fails, for a name too long or a directory that may not be searched.
  | refused
  deriving DecidableEq

def unified (content : String) : String :=
  String.ofList (Text.unifyNewlines content.toList)

def Entry.ofBytes (bytes : ByteArray) : Entry :=
  match String.fromUTF8? bytes with
  | some content => .text (unified content)
  | none => .unreadable "invalid UTF-8"

-- Stands in for a file system. The reasons it gives are shortened.
structure Files where
  directories : List Path
  files : List (Path × ByteArray)

/-- Where a walk along a path stands: at a directory inside the working directory, its names in
reverse, or at a directory above it or a root, of which nothing more is known. -/
inductive Place where
  | inside (names : Path)
  | above
  deriving DecidableEq

namespace Files

def hasDirectory (f : Files) (path : Path) : Bool :=
  path.isEmpty || f.directories.any (path.isPrefixOf ·) ||
    f.files.any fun file => path.isPrefixOf file.1 && path != file.1

def file? (f : Files) (path : Path) : Option ByteArray :=
  f.files.lookup path

def follow (f : Files) : Place → Path → Entry
  | _, [] => .unreadable "Is a directory"
  | .above, name :: rest =>
    if name = ".." then f.follow .above rest
    else if WrittenPath.nameLimit < name.utf8ByteSize then .refused
    else .missing
  | .inside names, name :: rest =>
    if name = ".." then
      match names with
      | [] => f.follow .above rest
      | _ :: outer => f.follow (.inside outer) rest
    else if WrittenPath.nameLimit < name.utf8ByteSize then .refused
    else
      let path := (name :: names).reverse
      if f.hasDirectory path then f.follow (.inside (name :: names)) rest
      else
        -- A file with names behind it is no directory, so nothing stands there.
        match f.file? path, rest with
        | some bytes, [] => Entry.ofBytes bytes
        | _, _ => .missing

def find (f : Files) (written : String) : Entry :=
  let path := WrittenPath.ofText written
  -- No path holds NUL, so nothing is looked up for a text that does.
  if written.toList.contains '\x00' then .missing
  else if WrittenPath.textLimit < path.text.utf8ByteSize then .refused
  else if path.root.isEmpty then f.follow (.inside []) path.names
  else f.follow .above path.names

def ofWritten (directories : List String) (files : List (String × ByteArray)) : Files :=
  ⟨directories.map fun written => (WrittenPath.ofText written).names,
    files.map fun (written, bytes) => ((WrittenPath.ofText written).names, bytes)⟩

end Files

end Lox.Cli
