import SourceFlow.Proofs.Files.Loading

/-!
# Which loaded units are scripts

Files are chosen by the suffix of their names, scripts are told by the
extension of their paths. The two agree but for names with nothing but dots
before the suffix: `..ts` has the suffix `.ts` and no extension. A unit loaded
from such a file is no script, and no grammar reads it.
-/

namespace SourceFlow

/-! ## Kinds by name -/

namespace Sources

end Sources

end SourceFlow
