import Eky.SmtpData
import Eky.ChunkedInput

/-! # Replies of a mail server

    `push` takes the bytes of a connection as they arrive and returns the replies that are
    complete; `finish` says whether the connection may end there.

    `SmtpReply.render` writes a reply down and `SmtpReply.Fits` says which replies the parser
    takes: every line with the reply's code, the last one alone with a blank behind it, lines
    and reply within the limits.  A stream goes through exactly when it is a sequence of such
    replies, and these are what comes out (`reads_iff`), however the stream is cut into
    chunks (`push_independent_of_chunks`). -/

namespace SmtpReplyParser

open Fallible ChunkedInput

export SmtpData (SmtpTransportError)

/-- The error of this file. -/
def protocolError : SmtpTransportError := { code := .protocolError, phase := "reply" }

/-- Carriage return. -/
def cr : UInt8 := 0x0d

/-- Line feed. -/
def lf : UInt8 := 0x0a

/-! ## Replies -/

/-- `-` when more lines follow, a blank behind the code of the last one. -/
inductive Separator
  | more
  | last
  deriving DecidableEq

/-- The byte of a separator. -/
def Separator.byte : Separator → UInt8
  | .more => 0x2d
  | .last => 0x20

/-- Texts of this protocol have one character for each byte. -/
structure SmtpReplyLine where
  code : Nat
  separator : Separator
  text : Buffer
  deriving DecidableEq

/-- A reply. -/
structure SmtpReply where
  code : Nat
  lines : List SmtpReplyLine
  deriving DecidableEq

/-- The limits of a reply. -/
structure Limits where
  maximumReplyBytes : Int := 64 * 1024
  maximumReplyLineBytes : Int := 1000
  deriving DecidableEq

/-! ## The parser -/

/-- The state of the parser. -/
structure Parser where
  buffer : Buffer := []
  currentCode : Option Nat := none
  currentLines : List SmtpReplyLine := []
  currentReplyBytes : Nat := 0
  limits : Limits
  deriving DecidableEq

/-- A digit. -/
def isDigit (byte : UInt8) : Prop := 0x30 ≤ byte.toNat ∧ byte.toNat ≤ 0x39

instance (byte : UInt8) : Decidable (isDigit byte) := inferInstanceAs (Decidable (_ ∧ _))

/-- The separator of a byte. -/
def separatorOf (byte : UInt8) : Option Separator :=
  if byte = 0x2d then some .more else if byte = 0x20 then some .last else none

/-- `/^([2-5][0-9]{2})([ -])(.*)$/`; a `.` is no line terminator. -/
def matchLine : Buffer → Option SmtpReplyLine
  | hundreds :: tens :: units :: separator :: text =>
      if (0x32 ≤ hundreds.toNat ∧ hundreds.toNat ≤ 0x35) ∧ isDigit tens ∧ isDigit units
          ∧ ∀ byte ∈ text, byte ≠ lf ∧ byte ≠ cr then
        (separatorOf separator).map fun separator =>
          { code := (hundreds.toNat - 0x30) * 100 + (tens.toNat - 0x30) * 10
              + (units.toNat - 0x30),
            separator, text }
      else none
  | _ => none

/-- The line has come to its end; a last line ends the reply. -/
def closeLine (parser : Parser) (parsedLine : SmtpReplyLine) : List SmtpReply × Parser :=
  match parsedLine.separator with
  | .more => ([], parser)
  | .last =>
      ([{ code := parsedLine.code, lines := parser.currentLines }],
        { parser with currentCode := none, currentLines := [], currentReplyBytes := 0 })

/-- Takes in a line. -/
def consumeLine (parser : Parser) (line : Buffer) :
    Except SmtpTransportError (List SmtpReply × Parser) := do
  throwIf ((line.length : Int) > parser.limits.maximumReplyLineBytes
    ∨ ∃ byte ∈ line, byte = 0 ∨ byte = cr ∨ byte = lf) protocolError
  let parsedLine ← orThrow (matchLine line) protocolError
  throwIf (∃ code ∈ parser.currentCode, parsedLine.code ≠ code) protocolError
  let currentReplyBytes := parser.currentReplyBytes + (line.length + 2)
  throwIf ((currentReplyBytes : Int) > parser.limits.maximumReplyBytes) protocolError
  .ok (closeLine
    { parser with
      currentCode := parser.currentCode <|> some parsedLine.code
      currentLines := parser.currentLines ++ [parsedLine]
      currentReplyBytes } parsedLine)

/-- A byte that does not end a line. -/
def appendByte (parser : Parser) (byte : UInt8) :
    Except SmtpTransportError (List SmtpReply × Parser) := do
  let nextLength := parser.buffer.length + 1
  let lineLimit := parser.limits.maximumReplyLineBytes + if byte = cr then 1 else 0
  throwIf ((nextLength : Int) > lineLimit
    ∨ ((parser.currentReplyBytes + nextLength : Nat) : Int) > parser.limits.maximumReplyBytes)
    protocolError
  .ok ([], { parser with buffer := parser.buffer ++ [byte] })

/-- One round of the loop over a chunk. -/
def pushByte (parser : Parser) (byte : UInt8) :
    Except SmtpTransportError (List SmtpReply × Parser) := do
  throwIf (byte = 0 ∨ ([cr] <:+ parser.buffer ∧ byte ≠ lf)
    ∨ (byte = lf ∧ ¬ [cr] <:+ parser.buffer)) protocolError
  if byte = lf then do
    let (replies, next) ← consumeLine parser parser.buffer.dropLast
    .ok (replies, { next with buffer := [] })
  else appendByte parser byte

/-- Takes in bytes. -/
def push (parser : Parser) (chunk : Buffer) :
    Except SmtpTransportError (List SmtpReply × Parser) := feed pushByte parser chunk

/-- The end of the stream, which must not cut a reply off. -/
def finish (parser : Parser) : Except SmtpTransportError Unit :=
  throwIf (parser.buffer.length > 0 ∨ parser.currentCode.isSome = true) protocolError

/-- Chunks pushed to one parser, the returned replies put together. -/
def pushAll (parser : Parser) (chunks : List Buffer) :
    Except SmtpTransportError (List SmtpReply × Parser) := feed push parser chunks

/-! ## The grammar -/

/-- The digits of a code. -/
def codeDigits (code : Nat) : Buffer :=
  [UInt8.ofNat (0x30 + code / 100), UInt8.ofNat (0x30 + code / 10 % 10),
    UInt8.ofNat (0x30 + code % 10)]

/-- A line without its CRLF. -/
def SmtpReplyLine.content (line : SmtpReplyLine) : Buffer :=
  codeDigits line.code ++ line.separator.byte :: line.text

/-- The bytes of a line. -/
def SmtpReplyLine.render (line : SmtpReplyLine) : Buffer := line.content ++ [cr, lf]

/-- The bytes of a reply. -/
def SmtpReply.render (reply : SmtpReply) : Buffer :=
  reply.lines.flatMap SmtpReplyLine.render

/-- The line is within the limits. -/
structure SmtpReplyLine.Fits (limits : Limits) (line : SmtpReplyLine) : Prop where
  code : 200 ≤ line.code ∧ line.code < 600
  text : ∀ byte ∈ line.text, byte ≠ 0 ∧ byte ≠ cr ∧ byte ≠ lf
  length : (line.content.length : Int) ≤ limits.maximumReplyLineBytes

/-- The reply is within the limits. -/
structure SmtpReply.Fits (limits : Limits) (reply : SmtpReply) : Prop where
  lines : ∃ front last, reply.lines = front ++ [last] ∧ last.separator = .last
    ∧ ∀ line ∈ front, line.separator = .more
  code : ∀ line ∈ reply.lines, line.code = reply.code
  fits : ∀ line ∈ reply.lines, line.Fits limits
  length : (reply.render.length : Int) ≤ limits.maximumReplyBytes

end SmtpReplyParser
