import MachineImage.Manifest
import MachineImage.Markup.Extract

/-!
The wording of the faults of markup.
-/
namespace MachineImage.Markup

/-- The construct and the delimiter that should have closed it. -/
def Construct.wording : Construct → Text × Text
  | .cdata => ("CDATA".toList, "]]>".toList)
  | .comment => ("comment".toList, "-->".toList)
  | .doctype => ("DOCTYPE".toList, ['>'])
  | .instruction => ("processing instruction".toList, "?>".toList)
  | .declaration => ("XML declaration".toList, "?>".toList)
  | .tag => ("tag".toList, ['>'])
  | .attributeValue quote => ("attribute value".toList, [quote])

def Fault.message : Fault → Text
  | .unclosed what =>
    "syntax error: ".toList ++ what.wording.1 ++ " not closed: `".toList ++ what.wording.2 ++
      "` not found before end of input".toList
  | .unknownMarkup => "syntax error: unknown or missed symbol in markup".toList
  | .namelessDoctype =>
    "ill-formed document: `<!DOCTYPE>` declaration does not contain a name of a ".toList ++
      "document type".toList
  | .unclosedReference =>
    "ill-formed document: entity or character reference not closed: `;` not found before ".toList ++
      "end of input".toList
  | .mismatched expected found =>
    "ill-formed document: expected `</".toList ++ expected ++ ">`, but `</".toList ++ found ++
      ">` was found".toList
  | .unmatched found =>
    "ill-formed document: close tag `</".toList ++ found ++ ">` does not match any open tag".toList

def NumberFault.message : NumberFault → Text
  | .sign => "unexpected number sign".toList
  | .empty => "cannot parse integer from empty string".toList
  | .digit => "invalid digit found in string".toList
  | .tooLarge => "number too large to fit in target type".toList
  | .zero => "0x0 character is not permitted in XML".toList
  | .noCharacter code => '`' :: Decimal.digits code ++ "` is not a valid codepoint".toList

/-- `start..stop`. -/
def range (start stop : Nat) : Text := Decimal.digits start ++ "..".toList ++ Decimal.digits stop

def ReferenceFault.message : ReferenceFault → Text
  | .unknownName start stop name =>
    "at ".toList ++ range start stop ++ ": unrecognized entity `".toList ++ name ++ ['`']
  | .unclosed start stop =>
    "Error while escaping character at range ".toList ++ range start stop ++
      ": Cannot find ';' after '&'".toList
  | .number why => "invalid character reference: ".toList ++ why.message

def ExtractError.message : ExtractError → Text
  | .malformed fault => "XML processing error: ".toList ++ fault.message
  | .unterminated tag => "unterminated element <".toList ++ tag ++ ['>']
  | .undecodable tag fault =>
    "failed to decode text of <".toList ++ tag ++ ">: ".toList ++ fault.message
  | .insideCharacter => "element content splits a character".toList

end MachineImage.Markup

namespace MachineImage

def IncompleteParts.message (e : IncompleteParts) : Text :=
  "manifest parts cover ".toList ++ Decimal.digits e.covered ++ " of ".toList ++
    Decimal.digits e.size ++ " bytes".toList

end MachineImage
