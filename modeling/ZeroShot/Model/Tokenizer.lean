import ZeroShot.Model.Runtime

/-! Tokenizers for pairs of texts. -/

namespace ZeroShot

abbrev Tokenizer [Runtime] : Type := Runtime.Tokenizer

namespace Tokenizer

variable [Runtime]

def ofFile (tree : FileTree) (path : String) : Except SetupFault Tokenizer :=
  (Runtime.openTokenizer tree path).mapError (.unusableTokenizer path)

def encode (tokenizer : Tokenizer) (premise hypothesis : String) (shape : EncodingShape) :
    Except DataFault EncodedInput :=
  match Runtime.tokens tokenizer premise hypothesis with
  | .ok tokens => .ok (EncodedInput.ofTokens tokens shape)
  | .error reason => .error (.tokenization reason)

end Tokenizer

end ZeroShot
