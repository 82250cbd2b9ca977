import Lifeline.Text.Line
import Lifeline.Unicode.Letter

/-! # Labels with a reply

The label of a synchronous message may hold the text of its answer. It is looked for in three
ways, in this order: behind the first `<-`; behind the colon of a signature `name(args): reply`;
behind the last colon that has text on both sides and does not belong to `://`. -/

namespace Lifeline.Syntax

open Lifeline.Unicode (isWordChar)

/-- The text before and behind the first occurrence of `<-`. -/
def splitReplyArrow? : List Char → Option (List Char × List Char)
  | [] => none
  | '<' :: '-' :: rest => some ([], rest)
  | c :: rest => (splitReplyArrow? rest).map fun (a, b) => (c :: a, b)

/-- The parts of a signature: a name with its arguments, and the text behind the colon. -/
def splitSignature? (text : List Char) : Option (List Char × List Char) :=
  match text with
  | [] => none
  | c :: rest =>
    if c.isAlpha || c == '_' then
      let letters := rest.takeWhile fun c => isWordChar c || c == '.'
      match rest.drop letters.length with
      | '(' :: inner =>
        let args := inner.takeWhile (· ≠ ')')
        match inner.drop args.length with
        | ')' :: behind =>
          match Text.trimStart behind with
          | ':' :: reply =>
            let reply := Text.trimStart reply
            if reply.isEmpty || reply.contains '\n' then none
            else some (c :: letters ++ '(' :: args ++ [')'], reply)
          | _ => none
        | _ => none
      | _ => none
    else none

/-- The trimmed texts before and behind the last colon that separates two texts, where `before`
has been read already, backwards. -/
def splitLastColon? (before : List Char) : List Char → Option (List Char × List Char)
  | [] => none
  | c :: rest =>
    match splitLastColon? (c :: before) rest with
    | some parts => some parts
    | none =>
      let label := Text.trim before.reverse
      let reply := Text.trim rest
      let isScheme := ['/', '/'].isPrefixOf rest
      if c = ':' ∧ isScheme = false ∧ label ≠ [] ∧ reply ≠ [] then some (label, reply) else none

/-- The text, unless it is empty. -/
def nonempty? (text : List Char) : Option (List Char) := if text.isEmpty then none else some text

/-- The label of a synchronous message and the text of its answer. -/
def splitReply (raw : List Char) : List Char × Option (List Char) :=
  let text := Text.trim raw
  match splitReplyArrow? text with
  | some (label, reply) => (Text.trim label, nonempty? (Text.trim reply))
  | none =>
    match splitSignature? text with
    | some (label, reply) => (label, nonempty? (Text.trim reply))
    | none =>
      match splitLastColon? [] text with
      | some (label, reply) => (label, some reply)
      | none => (text, none)

end Lifeline.Syntax
