import Courier.FileSystem.Disk
import Courier.Json
import Courier.Numeral

/-!
# Images of directories

An image describes what is in a directory, as a list of objects: each has a
`path` and a `kind`, which is `dir`, `file` or `link`. A file may have a `text`, a
`size` and the time `modified`, a link has a `target`.
-/

namespace Courier.Disk

/-- The text of a member, or an empty one. -/
def textOf (entry : Json) (key : String) : String := ((entry.child? key).map Json.data).getD ""

/-- The number in a member, if there is one. -/
def numberOf? (entry : Json) (key : String) : Option Int :=
  (Numeral.signed? (textOf entry key).toList).map fun read =>
    if read.1 then -(read.2 : Int) else read.2

/-- What an entry of an image stands for. -/
def nodeOf (entry : Json) : Node :=
  match textOf entry "kind" with
  | "dir" => .directory
  | "link" => .link (textOf entry "target")
  | _ =>
      let text := textOf entry "text"
      .file text (((numberOf? entry "size").map Int.toNat).getD text.utf8ByteSize) (numberOf? entry "modified")

/-- The disk that an image describes. -/
def ofImage (image : Json) : Disk :=
  image.children.foldl (fun disk entry => disk.put (textOf entry.2 "path") (nodeOf entry.2)) {}

end Courier.Disk
