import SeedShell.Page

/-!
# A store in a page

The texts that a page keeps. Where a page has no place for texts, a table in memory stands in for
as long as the store is used.
-/

namespace SeedShell

structure PageStore where
  page : Page
  /-- The table that stands in. -/
  standIn : Option Memory := none
  deriving DecidableEq

namespace PageStore

/-- The store of a page that has a place for texts. -/
def ofPage? (page : Page) : Option PageStore := if page.hasStorage then some ⟨page, none⟩ else none

/-- The store of a page, with an empty table where it has no place for texts. -/
def ofPage (page : Page) : PageStore := (ofPage? page).getD ⟨page, some .empty⟩

def get? (store : PageStore) (key : String) : Option String :=
  match store.standIn with
  | some table => table.get? key
  | none => if store.page.keeping = .unreadable then none else store.page.kept.get? key

/-- Changes the texts, unless the page takes no more. -/
def change (store : PageStore) (error : StoreError) (f : Memory → Memory) :
    Except StoreError Unit × PageStore :=
  match store.standIn with
  | some table => (.ok (), { store with standIn := some (f table) })
  | none =>
    if store.page.keeping = .full then (.error error, store)
    else (.ok (), { store with page := { store.page with kept := f store.page.kept } })

instance : KeyValueStore PageStore where
  get? := get?
  insert store key value := store.change (.notKept key) (·.insert key value)
  erase store key := store.change (.notDeleted key) (·.erase key)

end PageStore

end SeedShell
