import ZeroShot.Classifier.Builder
import ZeroShot.CommandLine.Run
import ZeroShot.Proofs.Classifier.Calls
import ZeroShot.Proofs.Ranking.Stability

/-! Inputs and scores of one configuration.

A classifier over a model that runs here reads its scores by a configuration, and the model shapes
its inputs by one. However the classifier was set up, they are the same, so that a graph is fed
what the class indices were resolved for. -/

namespace ZeroShot

namespace EncodedInput

end EncodedInput

section

variable [Runtime]

namespace LocalModel

end LocalModel

namespace Classifier

end Classifier

end

namespace Builder

end Builder

namespace Settings

end Settings

namespace Classifier

end Classifier

end ZeroShot
