import ZeroShot.Model.Device
import ZeroShot.Model.Graph
import ZeroShot.Model.Library
import ZeroShot.Model.WordTokenizer

/-! What models run on: sessions of graphs, tokenizers, and a hub of repositories. -/

namespace ZeroShot

/-- Nothing is assumed of what a graph computes, of the tokens of a text, of what a hub holds or of
the time that a call takes. Failures are told in words of the runtime's own. -/
class Runtime where
  Session : Type
  openSession : FileTree → (path : String) → Device → Except String Session
  run : Session → List Feed → Except String (List Tensor)
  /-- From the start of a call for a pair to its end. -/
  delay : Session → (premise hypothesis : String) → Duration
  Tokenizer : Type
  openTokenizer : FileTree → (path : String) → Except String Tokenizer
  tokens : Tokenizer → (premise hypothesis : String) → Except String Tokens
  Hub : Type
  openHub : Library → Except String Hub
  /-- Where a file of a repository is, once it is there. -/
  fetch : Hub → (id file : String) → Except String String

/-- Documents describe graphs and tokenizers, a cache is all there is of a hub, and no call takes
any time. -/
instance Runtime.ofDocuments : Runtime where
  Session := Graph
  openSession tree path _ := Graph.ofFile tree path
  run graph feeds := (graph.run feeds).map fun tensor => [tensor]
  delay _ _ _ := .zero
  Tokenizer := WordTokenizer
  openTokenizer := WordTokenizer.ofFile
  tokens := WordTokenizer.tokens
  Hub := Library
  openHub := .ok
  fetch := Library.fetch

end ZeroShot
