namespace PawnBytecode.Deflate

inductive Defect where
  | headerCheck
  | method
  | window
  | blockType
  | storedLengths
  | symbolCount
  | codeLengths
  | lengthRepeat
  | missingEnd
  | literalLengths
  | distanceLengths
  | literalCode
  | distanceCode
  | distanceRange
  | checksum
deriving DecidableEq

def Defect.text : Defect → String
  | headerCheck => "incorrect header check"
  | method => "unknown compression method"
  | window => "invalid window size"
  | blockType => "invalid block type"
  | storedLengths => "invalid stored block lengths"
  | symbolCount => "too many length or distance symbols"
  | codeLengths => "invalid code lengths set"
  | lengthRepeat => "invalid bit length repeat"
  | missingEnd => "invalid code -- missing end-of-block"
  | literalLengths => "invalid literal/lengths set"
  | distanceLengths => "invalid distances set"
  | literalCode => "invalid literal/length code"
  | distanceCode => "invalid distance code"
  | distanceRange => "invalid distance too far back"
  | checksum => "incorrect data check"

inductive Damage where
  | incomplete
  /-- The stream relies on a dictionary that it does not hold. -/
  | presetDictionary
  | defect (kind : Defect)
deriving DecidableEq

def Damage.text : Damage → String
  | incomplete => "Error -5 while decompressing data: incomplete or truncated stream"
  | presetDictionary => "Error 2 while decompressing data"
  | defect kind => "Error -3 while decompressing data: " ++ kind.text

end PawnBytecode.Deflate
