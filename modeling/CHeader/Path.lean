import CHeader.Text

/-!
# Paths

A path is a sequence of bytes, which slashes divide into names.  Most paths are the UTF-8 bytes of
a text.  Other ones lead to files just as well, but have no text: they can only be shown, with a
replacement character for the bytes that encode none.
-/

namespace CHeader

/-- The text that bytes encode in UTF-8, if they encode one. -/
def Text.ofUtf8? (bytes : ByteArray) : Option Text :=
  (String.fromUTF8? bytes).map String.toList

/-- A path, or a name on it. -/
abbrev Path := List UInt8

namespace Path

/-- The path that a text stands for. -/
def ofText (text : Text) : Path :=
  text.flatMap String.utf8EncodeChar

instance : Coe Text Path := ⟨ofText⟩

instance : Coe (List Text) (List Path) := ⟨List.map ofText⟩

/-- The text of a path, if it has one. -/
def text? (path : Path) : Option Text :=
  Text.ofUtf8? path.toByteArray

theorem text?_eq_some_iff {path : Path} {text : Text} :
    path.text? = some text ↔ path = ofText text := by
  simp only [text?, Text.ofUtf8?, String.fromUTF8?, Option.map_eq_some_iff]
  constructor
  · rintro ⟨string, decoded, rfl⟩
    split at decoded
    · next valid =>
        obtain rfl := Option.some.inj decoded
        have encoded := String.utf8Encode_toList (b := String.fromUTF8 path.toByteArray valid)
        exact (List.toByteArray_inj.mp encoded).symm
    · simp at decoded
  · rintro rfl
    have valid : (ofText text).toByteArray.IsValidUTF8 := ⟨text, rfl⟩
    exact ⟨String.ofList text, dif_pos valid, String.toList_ofList⟩

/-- The ranges of the bytes behind the first byte of a character, one after the other. -/
def followers (first : UInt8) : List (UInt8 × UInt8) :=
  let any : UInt8 × UInt8 := (0x80, 0xBF)
  if first < 0xC2 then []
  else if first ≤ 0xDF then [any]
  else if first = 0xE0 then [(0xA0, 0xBF), any]
  else if first = 0xED then [(0x80, 0x9F), any]
  else if first ≤ 0xEF then [any, any]
  else if first = 0xF0 then [(0x90, 0xBF), any, any]
  else if first ≤ 0xF3 then [any, any, any]
  else if first = 0xF4 then [(0x80, 0x8F), any, any]
  else []

/-- The character that bytes encode, or a replacement for it. -/
def shownGroup (group : Path) : Text :=
  group.text?.getD ['\uFFFD']

/-- Shows bytes behind some that belong together, where `awaited` are the ranges of the bytes that
can still belong to them. -/
def shownBehind (group : Path) (awaited : List (UInt8 × UInt8)) : Path → Text
  | [] => shownGroup group
  | byte :: bytes =>
      match awaited with
      | (least, greatest) :: later =>
          if least ≤ byte ∧ byte ≤ greatest then shownBehind (group ++ [byte]) later bytes
          else shownGroup group ++ shownBehind [byte] (followers byte) bytes
      | [] => shownGroup group ++ shownBehind [byte] (followers byte) bytes

/-- A path as it is shown. -/
def shown (path : Path) : Text :=
  path.text?.getD (shownBehind [] [] path)

theorem shown_ofText (text : Text) : (ofText text).shown = text := by
  rw [shown, text?_eq_some_iff.mpr rfl, Option.getD_some]

/-- What separates the names of a path. -/
def slash : UInt8 := 0x2F

/-- The name of a directory in itself. -/
def here : Path := ofText ['.']

/-- The name of the parent of a directory in it. -/
def parent : Path := ofText ['.', '.']

/-- Whether a name stands for the directory itself or for its parent. -/
def isDots (name : Path) : Bool :=
  name == here || name == parent

/-- Whether a path starts at the root. -/
def isAbsolute (path : Path) : Bool :=
  path.head? == some slash

/-- The names between the slashes of a path. -/
def names (path : Path) : List Path :=
  path.splitOn slash

/-- A path followed by one more name. -/
def join (path name : Path) : Path :=
  if path.isEmpty || path.getLast? == some slash then path ++ name
  else path ++ slash :: name

end Path
end CHeader
