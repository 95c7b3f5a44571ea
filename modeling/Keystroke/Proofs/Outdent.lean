import Keystroke.Proofs.Columns

namespace Keystroke

namespace IndentSettings

variable {s : IndentSettings}

end IndentSettings

namespace ResolvedAction

end ResolvedAction

end Keystroke
