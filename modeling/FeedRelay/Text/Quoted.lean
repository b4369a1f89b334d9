import FeedRelay.Text.Hex
import FeedRelay.Text.Shown
import FeedRelay.Text.Utf8

/-!
# Quoted text

Text between double quotes, for messages: what would not be seen is written as an escape, so
every text has one quoted form and it fits on a line.
-/

namespace FeedRelay.Text

/-- A character inside double quotes. -/
def quoteChar (c : Char) : List Char :=
  match c with
  | '\t' => ['\\', 't']
  | '\r' => ['\\', 'r']
  | '\n' => ['\\', 'n']
  | '\x00' => ['\\', '0']
  | '\\' => ['\\', '\\']
  | '"' => ['\\', '"']
  | c => if isShown c then [c] else '\\' :: 'u' :: '\x7b' :: (Hex.ofNat c.toNat ++ ['\x7d'])

/-- A text in double quotes. -/
def quoted (s : String) : String :=
  String.ofList ('"' :: s.toList.flatMap quoteChar ++ ['"'])

/-- A piece of a byte sequence inside double quotes. Here a single quote is escaped too. -/
def quotePiece : Utf8.Piece → List Char
  | .char '\'' => ['\\', '\'']
  | .char c => quoteChar c
  | .broken bytes => bytes.flatMap fun b => '\\' :: 'x' :: Hex.ofByte b

/-- A byte sequence in double quotes: its characters, and its broken bytes as escapes. -/
def quotedBytes (bytes : List UInt8) : String :=
  String.ofList ('"' :: (Utf8.pieces bytes).flatMap quotePiece ++ ['"'])

end FeedRelay.Text
