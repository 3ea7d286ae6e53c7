/-
  Texts in files.

  A file holds bytes.  Reading one as text asks for well-formed UTF-8, every byte of it, and then
  takes each of the three usual line ends (line feed, carriage return, both in this order) for a
  line feed.  Writing encodes the text and changes no line end, so reading and writing back a file
  turns all its line ends into line feeds, while appending leaves what is there alone.
-/
import ClassLift.Text.Blank

namespace ClassLift

def utf8 (t : Text) : ByteArray := (String.ofList t).toUTF8

/-- The text that well-formed bytes hold. -/
def utf8Text? (bytes : ByteArray) : Option Text := (String.fromUTF8? bytes).map String.toList

/-- How many bytes a text takes. -/
def utf8Length (t : Text) : Nat := t.foldl (fun n c => n + c.utf8Size) 0

/-- Every line end becomes a line feed. -/
def unifyLineEnds : Text → Text
  | [] => []
  | '\r' :: '\n' :: rest => '\n' :: unifyLineEnds rest
  | '\r' :: rest => '\n' :: unifyLineEnds rest
  | c :: rest => c :: unifyLineEnds rest

/-- A file read as text. -/
def readText? (bytes : ByteArray) : Option Text := (utf8Text? bytes).map unifyLineEnds

example : unifyLineEnds "a\r\nb\rc\n".toList = "a\nb\nc\n".toList := by decide

end ClassLift
