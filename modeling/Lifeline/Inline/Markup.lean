import Lifeline.Inline.Emphasis
import Lifeline.Inline.Html
import Lifeline.Inline.Link

/-! # Reading marked-up text

One paragraph is read from left to right. Code spans, addresses in angle brackets, tags and
character references are taken as they are met; a closing bracket turns the text since its
opening bracket into a link or an image where a target follows, and is text otherwise. Emphasis
is found last, separately in every link and outside them.

`scan` is recursive on the text itself: a construct that spans several characters is read where
it begins, and `skip` counts those of its characters that are still to be passed over. -/

namespace Lifeline.Inline

open Lifeline.Unicode (isAsciiPunctuation isLineBlank isSpaceOrTab)

/-- An opening bracket, whether it is that of an image, whether it may still become a link, the
text behind it, and what has been read of that, last piece first. -/
structure Bracket where
  isImage : Bool
  isEnabled : Bool
  inside : List Char
  marks : List Mark
  deriving Repr

/-- The bracket as it was written. -/
def Bracket.asText (b : Bracket) : List Char := if b.isImage then ['!', '['] else ['[']

/-- A paragraph read up to some point: what stands outside the open brackets, last piece first,
and the open brackets, innermost first. -/
structure Reading where
  marks : List Mark
  brackets : List Bracket
  deriving Repr

/-- More pieces, given last piece first. -/
def Reading.push (s : Reading) (marks : List Mark) : Reading :=
  match s.brackets with
  | [] => { s with marks := marks ++ s.marks }
  | b :: bs => { s with brackets := { b with marks := marks ++ b.marks } :: bs }

/-- Plain text. -/
def Reading.text (s : Reading) (text : List Char) : Reading := s.push [.text (styled .plain text)]

/-- A bracket that became no link. -/
def Reading.unbracket (s : Reading) (b : Bracket) : Reading :=
  s.push (b.marks ++ [.text (styled .plain b.asText)])

/-- No link holds another, so a link takes from the brackets around it the right to become one. -/
def Bracket.disable (b : Bracket) : Bracket :=
  if b.isImage then b else { b with isEnabled := false }

/-- The target of a link and what follows it, from behind its closing bracket on: a target in
parentheses, or what a label stands for. The label is given in brackets of its own; without one,
or where they are empty, it is what stands between the brackets of the link. -/
def linkBehind? (ds : Definitions) (between rest : List Char) : Option (List Char × List Char) :=
  match linkTarget? rest with
  | some found => some found
  | none =>
    let named (behind : List Char) :=
      match label? (between ++ [']']) with
      | some (label, []) => (ds.target? label).map fun url => (url, behind)
      | _ => none
    match rest with
    | '[' :: ']' :: behind => named behind
    | '[' :: inner =>
      match label? inner with
      | some (label, behind) => (ds.target? label).map fun url => (url, behind)
      | none => named rest
    | _ => named rest

/-- A closing bracket, and the number of characters of the target behind it. -/
def Reading.closeBracket (ds : Definitions) (s : Reading) (rest : List Char) : Reading × Nat :=
  match s.brackets with
  | [] => (s.text [']'], 0)
  | b :: bs =>
    let outer : Reading := { s with brackets := bs }
    let between := b.inside.take (b.inside.length - rest.length - 1)
    match if b.isEnabled then linkBehind? ds between rest else none with
    | none => ((outer.unbracket b).text [']'], 0)
    | some (url, behind) =>
      let glyphs := resolve b.marks.reverse
      let read :=
        if b.isImage then outer.push [.text glyphs]
        else
          ({ outer with brackets := outer.brackets.map Bracket.disable } : Reading).push
            [.text (paint (.link (String.ofList url)) glyphs)]
      (read, rest.length - behind.length)

/-- The text up to the next run of exactly `count` backticks, the length of the run in front of
the text being `run`. The answer is `none` where there is no such run. -/
def codeText? (count : Nat) (run : Nat) : List Char → Option (List Char)
  | [] => if run = count then some [] else none
  | c :: rest =>
    if c = '\x60' then codeText? count (run + 1) rest
    else if run = count then some []
    else (codeText? count 0 rest).map fun text => List.replicate run '\x60' ++ c :: text

/-- The content of a code span: a line end is a space, and one space is dropped at each end where
both have one and there is something else. -/
def codeContent (text : List Char) : List Char :=
  let spaced := text.map fun c => if c = '\n' then ' ' else c
  if spaced.head? = some ' ' ∧ spaced.getLast? = some ' ' ∧ text.any (· ≠ ' ') then
    (spaced.drop 1).dropLast
  else spaced

/-- The number of characters from here on that end the line, where the line goes no further: its
last blanks, the line end, and the indentation of the next line. -/
def lineEnd? (text : List Char) : Option Nat :=
  match text.dropWhile isLineBlank with
  | [] => some text.length
  | '\n' :: rest => some (text.length - (rest.dropWhile isSpaceOrTab).length)
  | _ => none

/-- Reads a construct that begins with `c`, between what stands before it and the rest of the
text, and tells how many characters of the rest belong to it. -/
def Reading.step (ds : Definitions) (s : Reading) (before : Option Char) (c : Char)
    (rest : List Char) : Reading × Nat :=
  match (if isLineBlank c ∨ c = '\n' then lineEnd? (c :: rest) else none) with
  | some n => (if n = rest.length + 1 then s else s.text [' '], n - 1)
  | none =>
    match c with
    | '\\' =>
      match rest with
      | '\n' :: next =>
        if next.isEmpty then (s.text ['\\'], 0)
        else (s.text [' '], (next.takeWhile isSpaceOrTab).length + 1)
      | p :: _ => if isAsciiPunctuation p then (s.text [p], 1) else (s.text ['\\'], 0)
      | [] => (s.text ['\\'], 0)
    | '\x60' =>
      let n := (rest.takeWhile (· = '\x60')).length
      match codeText? (n + 1) 0 (rest.drop n) with
      | some text => (s.push [.text (styled .code (codeContent text))], n + text.length + n + 1)
      | none => (s.text (List.replicate (n + 1) '\x60'), n)
    | '*' | '_' =>
      let n := (rest.takeWhile (· = c)).length
      let run := Run.between before c (n + 1) (rest.drop n).head?
      if run.canOpen || run.canClose then (s.push [.run run], n)
      else (s.text (List.replicate (n + 1) c), n)
    | '&' =>
      match reference? rest with
      | some (text, n) => (s.text text, n)
      | none => (s.text ['&'], 0)
    | '<' =>
      match autolink? rest with
      | some url =>
        (s.push [.text (styled (.link (String.ofList url)) url)], url.length + 1)
      | none =>
        match markup? rest with
        | some n => (s.text ('<' :: rest.take n), n)
        | none => (s.text ['<'], 0)
    | '!' =>
      match rest with
      | '[' :: _ => ({ s with brackets := ⟨true, true, rest.drop 1, []⟩ :: s.brackets }, 1)
      | _ => (s.text ['!'], 0)
    | '[' => ({ s with brackets := ⟨false, true, rest, []⟩ :: s.brackets }, 0)
    | ']' => s.closeBracket ds rest
    | _ => (s.text [c], 0)

/-- Reads on behind the character `before`, passing over the next `skip` characters. -/
def Reading.scan (ds : Definitions) (s : Reading) (before : Option Char) (skip : Nat) :
    List Char → Reading
  | [] => s
  | c :: rest =>
    match skip with
    | k + 1 => s.scan ds (some c) k rest
    | 0 =>
      let (s, k) := s.step ds before c rest
      s.scan ds (some c) k rest

/-- The pieces of the paragraph, where the brackets that are still open are text. -/
def Reading.finish (s : Reading) : List Mark :=
  (s.brackets.foldr (fun b outer => b.marks ++ .text (styled .plain b.asText) :: outer)
    s.marks).reverse

/-- The styled text of a paragraph that stands behind the character `before`. -/
def readMarkup (ds : Definitions) (before : Option Char) (text : List Char) : List Glyph :=
  resolve ((⟨[], []⟩ : Reading).scan ds before 0 text).finish

end Lifeline.Inline
