/-
  VisualNovel.Store.Memory

  A store that keeps its texts in memory and never fails.
-/

import VisualNovel.NameMap
import VisualNovel.Store.Basic

namespace VisualNovel

/-- A store in memory. -/
structure MemoryStore where
  values : NameMap String
  deriving DecidableEq

namespace MemoryStore

/-- The store without texts. -/
def empty : MemoryStore := ⟨.empty⟩

instance : Inhabited MemoryStore := ⟨empty⟩

instance : LedgerStore MemoryStore where
  read s key := .ok (s.values.get? key)
  write s key value := (.ok (), ⟨s.values.insert key value⟩)

end MemoryStore

end VisualNovel
