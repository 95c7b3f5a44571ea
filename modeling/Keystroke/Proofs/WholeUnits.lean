import Keystroke.Proofs.Columns

namespace Keystroke

namespace IndentSettings

end IndentSettings

namespace IndentSettings

variable {s : IndentSettings} {t rest : Text}

end IndentSettings

end Keystroke
