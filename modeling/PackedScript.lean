import PackedScript.Bytes.Base64
import PackedScript.Bytes.Percent
import PackedScript.Bytes.Utf8
import PackedScript.CallSite.Basic
import PackedScript.CallSite.Extract
import PackedScript.Envelope
import PackedScript.Failure
import PackedScript.Literal
import PackedScript.Numeral.Positional
import PackedScript.Numeral.Radix
import PackedScript.Page.Block
import PackedScript.Page.Flatten
import PackedScript.Pattern.Automaton
import PackedScript.Pattern.Bracket
import PackedScript.Pattern.CharClass
import PackedScript.Pattern.Engine
import PackedScript.Pattern.Escape
import PackedScript.Pattern.Node
import PackedScript.Pattern.Program
import PackedScript.Pattern.Reader
import PackedScript.Pattern.Search
import PackedScript.Payload
import PackedScript.Run
import PackedScript.Session
import PackedScript.StringTable
import PackedScript.SymbolTable
import PackedScript.Text.Basic
import PackedScript.Text.Cut
import PackedScript.Text.Quoted
import PackedScript.Text.Split
import PackedScript.Text.Substitute
import PackedScript.Unicode.Alphabetic
import PackedScript.Unicode.CaseFolding
import PackedScript.Unicode.DecimalDigit
import PackedScript.Unicode.Number
import PackedScript.Unicode.RunTable
import PackedScript.Unicode.Space
import PackedScript.Unicode.Unprintable
import PackedScript.Unicode.Word
import PackedScript.Unpacker
import PackedScript.Proofs.Text.Cut
import PackedScript.Proofs.CallSite.Shape
import PackedScript.Proofs.Numeral.Positional
import PackedScript.Proofs.CallSite.Grammar
import PackedScript.Proofs.CallSite.Plain
import PackedScript.Proofs.CallSite.Legacy
import PackedScript.Proofs.Numeral.Written
import PackedScript.Proofs.Payload.Words
import PackedScript.Proofs.SymbolTable
import PackedScript.Proofs.Payload.Template
import PackedScript.Proofs.Unpacker.Stages
import PackedScript.Proofs.Unpacker.RoundTrip
import PackedScript.Proofs.Bytes.Base64
import PackedScript.Proofs.Envelope
import PackedScript.Proofs.CallSite.Primary
import PackedScript.Proofs.Unpacker.Options
import PackedScript.Proofs.Reporting
import PackedScript.Proofs.Session
import PackedScript.Proofs.Text.Substitute
import PackedScript.Proofs.Page.Flatten
import PackedScript.Proofs.Page.Block
import PackedScript.Proofs.Numeral.Digits
import PackedScript.Proofs.Numeral.Radix
import PackedScript.Proofs.Numeral.LookUp
import PackedScript.Proofs.Page.Size
import PackedScript.Proofs.Unpacker.Limit
import PackedScript.Proofs.StringTable.Access
import PackedScript.Proofs.StringTable.Declaration
import PackedScript.Proofs.StringTable.Inline
import PackedScript.Proofs.Literal.Quoted
import PackedScript.Proofs.Bytes.Percent
import PackedScript.Proofs.Literal.Encoded
import PackedScript.Proofs.CallSite.Delimiter
import PackedScript.Proofs.Payload.Address
import PackedScript.Proofs.Bytes.Lossy
import PackedScript.Proofs.Envelope.Canonical
import PackedScript.Proofs.CallSite.Fault
import PackedScript.Proofs.Unpacker.Failing
import PackedScript.Proofs.Unpacker.Filled
import PackedScript.Proofs.Page.Flat
