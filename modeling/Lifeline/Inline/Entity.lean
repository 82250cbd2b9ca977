import Lifeline.Inline.EntityTable
import Lifeline.Unicode.Punctuation

/-! # Character references and escapes

Between `&` and `;` stands a name of the table, `#` with at most seven decimal digits, or `#x`
with at most six digits in base sixteen. `reference?` reads what follows the `&`. A reference to
code point zero stands for the replacement character; one to no character is plain text.
`unescape` is the reading of a link target, where a backslash makes punctuation literal. -/

namespace Lifeline.Inline

open Lifeline.Unicode (isAsciiPunctuation)

/-- The character of a numeric reference. -/
def characterAt? (code : Nat) : Option Char :=
  if code = 0 then some '\ufffd'
  else if code.isValidChar then some (Char.ofNat code)
  else none

/-- A numeric reference, from its digits on: the character and the number of digits, provided
that a semicolon follows them. -/
def numericReference? (base limit : Nat) (isDigit : Char → Bool) (text : List Char) :
    Option (List Char × Nat) :=
  let digits := (text.take limit).takeWhile isDigit
  match digits, (text.drop digits.length).head? with
  | _ :: _, some ';' => (characterAt? (numeral base digits)).map fun c => ([c], digits.length)
  | _, _ => none

/-- A character reference, from behind its `&` on: what it stands for and the number of
characters up to its semicolon, which counts. -/
def reference? (text : List Char) : Option (List Char × Nat) :=
  match text with
  | '#' :: 'x' :: rest | '#' :: 'X' :: rest =>
    (numericReference? 16 6 (fun c => (hexDigit? c).isSome) rest).map fun (c, n) => (c, n + 3)
  | '#' :: rest => (numericReference? 10 7 Char.isDigit rest).map fun (c, n) => (c, n + 2)
  | _ =>
    let name := text.takeWhile Char.isAlphanum
    match (text.drop name.length).head? with
    | some ';' => (namedCharacters? name).map fun cs => (cs, name.length + 1)
    | _ => none

/-- The meaning of a link target, whose first `skip` characters have been read already. -/
def unescapeFrom (skip : Nat) : List Char → List Char
  | [] => []
  | c :: rest =>
    match skip with
    | k + 1 => unescapeFrom k rest
    | 0 =>
      if c = '\\' then
        match rest with
        | p :: _ =>
          if isAsciiPunctuation p then p :: unescapeFrom 1 rest else c :: unescapeFrom 0 rest
        | [] => [c]
      else if c = '&' then
        match reference? rest with
        | some (cs, n) => cs ++ unescapeFrom n rest
        | none => c :: unescapeFrom 0 rest
      else c :: unescapeFrom 0 rest

/-- The meaning of a link target. -/
def unescape (text : List Char) : List Char := unescapeFrom 0 text

end Lifeline.Inline
