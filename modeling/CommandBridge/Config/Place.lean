import CommandBridge.Config.Reader

/-! Files in folders, and what a path leads to. -/
namespace CommandBridge.Config

inductive Place where
  | file (content : List UInt8)
  | folder (places : List (String × Place))

namespace Place

def read : Place → File
  | .file content => .bytes content
  | .folder _ => .absent .folder

/-- Follows names from a place. `above` is the folders that it is in, the nearest one first. -/
def follow (here : Place) (above : List Place) : List String → File
  | [] => here.read
  | name :: names =>
    match here with
    | .file _ => .absent .notFolder
    | .folder places =>
      if name = "" || name = "." then follow here above names
      else if name = ".." then
        match above with
        | [] => follow here [] names
        | p :: ps => follow p ps names
      else if 255 < name.utf8ByteSize then .absent .longName
      else
        match places.lookup name with
        | some p => follow p (here :: above) names
        | none => .absent .missing

/-- What a path leads to. One that starts with a slash leads from the outermost folder. -/
def find (here : Place) (above : List Place) (path : String) : File :=
  let names := (path.toList.splitOn '/').map String.ofList
  if 4096 ≤ path.utf8ByteSize then .absent .longName
  else if path.startsWith "/" then follow ((here :: above).getLast (by simp)) [] names
  else follow here above names

end Place

end CommandBridge.Config
