import ClassModel.Proofs.Document.Loads
import ClassModel.Proofs.Schema.Tying

/-!
# What a loaded document holds

Components are built in the order of references, some of them long before their turn. None of that
is left in what is loaded. The catalog has the names of the document in its order, each with the
component that its own value gives (`forall₂_standsFor`), so it is determined by the document entry
by entry (`get?_eq_some_iff_gives`), and a document that has the same entries in another order loads
the same components (`load_faithful`).
-/

set_option autoImplicit false

namespace ClassModel
namespace Document

variable {raw raw' : Entries Json} {built catalog : Catalog} {document document' : Json}
  {n t : String} {c : Component String}

/-- The entry of a catalog stands for an entry of the document: it has its name, and the component
that its value gives. -/
structure StandsFor (e : String × Json) (e' : String × Component String) : Prop where
  key : e'.1 = e.1
  gives : ∃ es, e.2 = .obj es ∧ GivesComponent e.1 es e'.2

/-- What is built stands for the document, entry by entry. -/
theorem Sound.forall₂_standsFor (h : Sound raw built) (hn : raw.keys.Nodup)
    {entries : Entries Json} (hsub : entries ⊆ raw) (hall : entries.keys ⊆ built.keys) :
    List.Forall₂ StandsFor entries
      (entries.keys.filterMap fun k => (built.get? k).map (k, ·)) := by
  induction entries with
  | nil => exact .nil
  | cons e rest ih =>
    obtain ⟨k, j⟩ := e
    have hkeys : Entries.keys ((k, j) :: rest) = k :: Entries.keys rest := rfl
    rw [hkeys] at hall ⊢
    obtain ⟨c, hc⟩ := Entries.exists_get?_of_mem (hall List.mem_cons_self)
    obtain ⟨es, hraw, hgives⟩ := h.given k c hc
    have hj : raw.get? k = some j := (Entries.get?_eq_some_iff hn).mpr (hsub List.mem_cons_self)
    rw [hraw] at hj
    cases hj
    have hcons : (k :: Entries.keys rest).filterMap (fun k => (built.get? k).map (k, ·)) =
        (k, c) :: (Entries.keys rest).filterMap fun k => (built.get? k).map (k, ·) :=
      List.filterMap_cons_some (by rw [hc, Option.map_some])
    rw [hcons]
    exact .cons ⟨rfl, es, rfl, hgives⟩
      (ih (List.subset_of_cons_subset hsub) (List.subset_of_cons_subset hall))

/-- **A loaded catalog stands for the document, entry by entry**, and the document follows the rules
for references. -/
theorem forall₂_standsFor (h : load document = .ok catalog) :
    ∃ raw, components? document = some raw ∧ Known raw ∧ Acyclic raw ∧
      List.Forall₂ StandsFor raw catalog := by
  obtain ⟨raw, built, hdoc, hsound, hall, rfl⟩ := exists_built_of_load h
  obtain ⟨hknown, hacyclic⟩ := hsound.known_and_acyclic hall
  refine ⟨raw, hdoc, hknown, hacyclic, ?_⟩
  exact hsound.forall₂_standsFor (nodup_keys_of_components? hdoc) (List.Subset.refl raw) hall

theorem keys_eq_of_standsFor (h : List.Forall₂ StandsFor raw catalog) :
    catalog.keys = raw.keys := by
  induction h with
  | nil => rfl
  | cons he _ ih =>
    rw [Entries.keys, Entries.keys] at ih ⊢
    rw [List.map_cons, List.map_cons, he.key, ih]

/-- The component of a name is the one that the value of the name gives. -/
theorem get?_eq_some_iff_gives (hn : raw.keys.Nodup) (h : List.Forall₂ StandsFor raw catalog) :
    catalog.get? n = some c ↔
      ∃ es, raw.get? n = some (.obj es) ∧ GivesComponent n es c := by
  have hn' : catalog.keys.Nodup := keys_eq_of_standsFor h ▸ hn
  rw [Entries.get?_eq_some_iff hn']
  constructor
  · intro hm
    obtain ⟨⟨k, j⟩, hkj, hkey, es, hj, hgives⟩ := exists_left_of_forall₂ h hm
    dsimp only at hkey hj hgives
    subst hkey hj
    exact ⟨es, (Entries.get?_eq_some_iff hn).mpr hkj, hgives⟩
  · rintro ⟨es, hraw, hgives⟩
    have hm : (n, Json.obj es) ∈ raw := (Entries.get?_eq_some_iff hn).mp hraw
    obtain ⟨⟨k, c'⟩, hkc, hkey, es', hj, hgives'⟩ := exists_right_of_forall₂ h hm
    dsimp only at hkey hj hgives'
    cases hj
    subst hkey
    rw [hgives.unique hgives']
    exact hkc

theorem wellShaped_of_standsFor (hn : raw.keys.Nodup) (h : List.Forall₂ StandsFor raw catalog) :
    WellShaped raw := by
  intro n j hj
  have hm : (n, j) ∈ raw := (Entries.get?_eq_some_iff hn).mp hj
  obtain ⟨e', _, _, es, hes, hgives⟩ := exists_right_of_forall₂ h hm
  exact ⟨es, hes, exists_givesComponent_iff.mp ⟨e'.2, hgives⟩⟩

/-- The mappings of a loaded catalog list only keys of it, so it is tied to a schema. -/
theorem exists_ofCatalog_of_standsFor (hn : raw.keys.Nodup) (hknown : Known raw)
    (h : List.Forall₂ StandsFor raw catalog) :
    ∃ s, Schema.ofCatalog catalog = .ok s ∧ s.Ties catalog := by
  have hkeys : catalog.keys = raw.keys := keys_eq_of_standsFor h
  refine Schema.exists_ofCatalog (hkeys ▸ hn) fun e he t ht => ?_
  obtain ⟨es, hraw, hgives⟩ := (get?_eq_some_iff_gives hn h).mp
    ((Entries.get?_eq_some_iff (hkeys ▸ hn)).mpr he)
  rw [hkeys]
  exact hknown e.1 t ((hgives.refers_iff hraw).mpr ht)

/-! ## The order of a document -/

/-- References depend on the values of names only. -/
theorem refers_congr (h : ∀ n, raw'.get? n = raw.get? n) : Refers raw' = Refers raw := by
  funext n t
  rw [Refers, Refers, h n]

/-- A document that has the entries of a loaded one, in whatever order, loads the same
components. -/
theorem exists_load_of_perm (hdoc : components? document = some raw) (hknown : Known raw)
    (hacyclic : Acyclic raw) (h : List.Forall₂ StandsFor raw catalog)
    (hdoc' : components? document' = some raw') (hp : raw'.Perm raw) :
    ∃ catalog', load document' = .ok catalog' ∧ catalog'.keys = raw'.keys ∧
      ∀ n, catalog'.get? n = catalog.get? n := by
  have hn : raw.keys.Nodup := nodup_keys_of_components? hdoc
  have hn' : raw'.keys.Nodup := nodup_keys_of_components? hdoc'
  have hget : ∀ n, raw'.get? n = raw.get? n := Entries.get?_of_perm hn hp
  have hshape : WellShaped raw' := by
    intro n j hj
    exact wellShaped_of_standsFor hn h n j (hget n ▸ hj)
  have hrules : Known raw' ∧ Acyclic raw' := by
    refine ⟨fun n t hnt => ?_, ?_⟩
    · rw [refers_congr hget] at hnt
      exact (hp.map Prod.fst).mem_iff.mpr (hknown n t hnt)
    · rw [Acyclic, refers_congr hget]
      exact hacyclic
  obtain ⟨catalog', hload⟩ := (exists_load_iff hdoc' hshape).mpr hrules
  obtain ⟨raw'', hdoc'', _, _, h'⟩ := forall₂_standsFor hload
  rw [hdoc'] at hdoc''
  cases hdoc''
  refine ⟨catalog', hload, keys_eq_of_standsFor h', fun n => Option.ext fun c => ?_⟩
  rw [get?_eq_some_iff_gives hn' h', get?_eq_some_iff_gives hn h, hget n]

/-- **Loading is faithful, in whatever order the components stand.** The catalog has the components
of the document in order, each given by its own value, and it is tied to a schema: a mapping leads
to the very components that stand under the names it lists. Every permutation of the components
loads, and gives each name the same component. -/
theorem load_faithful (h : load document = .ok catalog) :
    ∃ raw s, components? document = some raw ∧ catalog.keys = raw.keys ∧
      List.Forall₂ (fun e e' => e'.1 = e.1 ∧ ∃ es, e.2 = .obj es ∧ GivesComponent e.1 es e'.2 ∧
        (e'.2.isUnion = true ↔ ∃ j, member? es "discriminator" = some j)) raw catalog ∧
      Schema.ofCatalog catalog = .ok s ∧ s.Ties catalog ∧
      ∀ document' raw', components? document' = some raw' → raw'.Perm raw →
        ∃ catalog', load document' = .ok catalog' ∧ catalog'.keys = raw'.keys ∧
          ∀ n, catalog'.get? n = catalog.get? n := by
  obtain ⟨raw, hdoc, hknown, hacyclic, hstands⟩ := forall₂_standsFor h
  have hn : raw.keys.Nodup := nodup_keys_of_components? hdoc
  obtain ⟨s, hs, hties⟩ := exists_ofCatalog_of_standsFor hn hknown hstands
  refine ⟨raw, s, hdoc, keys_eq_of_standsFor hstands, ?_, hs, hties, ?_⟩
  · refine hstands.imp fun e e' hee => ?_
    obtain ⟨hkey, es, hes, hgives⟩ := hee
    exact ⟨hkey, es, hes, hgives, hgives.isUnion_iff⟩
  · intro document' raw' hdoc' hp
    exact exists_load_of_perm hdoc hknown hacyclic hstands hdoc' hp

end Document

/-! ## A union before its variant, and after it -/

namespace Wallet

def payment : Json :=
  .obj [("discriminator", .obj [("field", .str "type"), ("mapping", .obj [("CARD", .str "Card")])])]

def card : Json :=
  .obj [("qualifier", .str "wallet"), ("fields", .obj [
    ("type", .obj [("qualifier", .str "kotlin.String"), ("enum", .arr [.str "CARD"])]),
    ("owners", .obj [("qualifier", .str "List"), ("generics", .arr [.str "kotlin.String"])])])]

/-- A document with the given components. -/
def documentOf (components : List (String × Json)) : Json := .obj [("components", .obj components)]

def catalog : Catalog := [
  ("Payment", {
    name := "Payment"
    fields := []
    discriminator := some ⟨.str "type", [("CARD", "Card")]⟩
    distinct := List.nodup_nil }),
  ("Card", {
    name := "Card"
    qualifier := .str "wallet"
    fields := [
      { name := "type", type := { qualifier := .str "kotlin.String" }, literals := ["CARD"] },
      { name := "owners", type := { qualifier := .str "List" },
        generics := [{ qualifier := .str "kotlin.String" }] }] })]

theorem load_payment_first :
    Document.load (documentOf [("Payment", payment), ("Card", card)]) = .ok catalog := rfl

end Wallet

/-- With the variant first, the components are the same. -/
theorem Wallet.card_first : ∃ catalog',
    Document.load (documentOf [("Card", card), ("Payment", payment)]) = .ok catalog' ∧
      catalog'.keys = ["Card", "Payment"] ∧ ∀ n, catalog'.get? n = catalog.get? n := by
  obtain ⟨raw, _, hdoc, _, _, _, _, hperm⟩ := Document.load_faithful load_payment_first
  cases hdoc
  exact hperm _ [("Card", card), ("Payment", payment)] rfl (List.Perm.swap _ _ _)

end ClassModel
