import Homex.Market.Models

/-!
# Filtering a list by category

`filter_by_category` selects the rows of one category, by its id or its slug, and
every row when the client asks for all of them. The product list of the market
has a filter of its own, which knows two of the three words for all of them, and
these in lower case only. `UUID(…)` is a parameter: the id that a text is, if any.
-/

namespace Homex

namespace Market

/-- The three query parameters that may name a category. -/
structure CategoryQuery where
  category : Option String := none
  categoryId : Option String := none
  categorySlug : Option String := none

/-- The first of the parameters that is not empty, or the last one. -/
def CategoryQuery.value (query : CategoryQuery) : Option String :=
  if query.category.getD "" ≠ "" then query.category
  else if query.categoryId.getD "" ≠ "" then query.categoryId
  else query.categorySlug

/-- `CATEGORY_ALL_SENTINELS`. -/
def categoryAllSentinels : List String := ["all", "hammasi", "barchasi"]

/-- `str.lower`. No letter outside ASCII has one of the sentinels' letters as its lower
case, so only those in ASCII matter here. -/
def lower (text : String) : String := String.ofList (text.toList.map Char.toLower)

/-- `category_param`. -/
def categoryParam (query : CategoryQuery) : Option String :=
  match query.value with
  | none => none
  | some value =>
      if value = "" ∨ lower value ∈ categoryAllSentinels then none else some value

/-- `market.MarketCategory`. -/
structure MarketCategory where
  id : Uuid
  slug : String
  deriving DecidableEq, Repr

/-- A product with its category, as `select_related` loads them. -/
structure ListedProduct extends MarketProduct where
  category : Option MarketCategory := none
  deriving DecidableEq, Repr

section Filters

variable {ρ : Type*} (uuid : String → Option Uuid)

/-- The row is of the category with this id or slug; `category` is the lookup path. -/
def OfCategory (category : ρ → Option MarketCategory) (value : String) (row : ρ) : Prop :=
  ((uuid value).isSome = true ∧ (category row).map MarketCategory.id = uuid value) ∨
    (uuid value = none ∧ (category row).map MarketCategory.slug = some value)

instance (category : ρ → Option MarketCategory) (value : String) :
    DecidablePred (OfCategory uuid category value) :=
  fun _ => inferInstanceAs (Decidable (_ ∨ _))

/-- `filter_by_category`. -/
def filterByCategory (category : ρ → Option MarketCategory) (queryset : List ρ)
    (query : CategoryQuery) : List ρ :=
  match categoryParam query with
  | none => queryset
  | some value => queryset.filter (OfCategory uuid category value)

/-- The words for all categories that the market list knows. -/
def MarketProductListView.sentinels : List String := ["all", "hammasi"]

/-- The category filter of `MarketProductListView.get_queryset`. -/
def MarketProductListView.filterCategory (queryset : List ListedProduct)
    (query : CategoryQuery) : List ListedProduct :=
  match query.value with
  | none => queryset
  | some value =>
      if value ≠ "" ∧ value ∉ sentinels then
        queryset.filter (OfCategory uuid ListedProduct.category value)
      else
        queryset

end Filters

/-- A text that asks for all categories everywhere but in the market list. -/
def AllElsewhere (value : String) : Prop :=
  lower value ∈ categoryAllSentinels ∧ value ∉ MarketProductListView.sentinels

variable {uuid : String → Option Uuid} {query : CategoryQuery} {products : List ListedProduct}

theorem lower_mem_of_mem {value : String} (h : value ∈ MarketProductListView.sentinels) :
    lower value ∈ categoryAllSentinels := by
  simp only [MarketProductListView.sentinels, List.mem_cons, List.not_mem_nil, or_false] at h
  rcases h with rfl | rfl <;> decide

/-- The two filters select the same products unless the text asks for all categories
elsewhere only; then they do when every product is of the category the text names. -/
theorem filters_agree (uuid : String → Option Uuid) (query : CategoryQuery)
    (products : List ListedProduct) :
    MarketProductListView.filterCategory uuid products query =
        filterByCategory uuid ListedProduct.category products query ↔
      ∀ value, query.value = some value → AllElsewhere value →
        ∀ product ∈ products, OfCategory uuid ListedProduct.category value product := by
  unfold MarketProductListView.filterCategory filterByCategory categoryParam
  cases query.value with
  | none => simp
  | some value =>
      by_cases hempty : value = ""
      · subst hempty
        have hlower : lower "" ∉ categoryAllSentinels := by decide
        simp [AllElsewhere, hlower]
      · by_cases hall : lower value ∈ categoryAllSentinels
        · by_cases hhere : value ∈ MarketProductListView.sentinels
          · simp [AllElsewhere, hempty, hall, hhere]
          · simp [AllElsewhere, hempty, hall, hhere]
        · have hhere : value ∉ MarketProductListView.sentinels :=
            fun h => hall (lower_mem_of_mem h)
          simp [AllElsewhere, hempty, hall, hhere]

namespace Sample

/-- A product of no category. -/
def drill : ListedProduct := { id := 1, price := 2500000 }

end Sample

/-- `?category=barchasi` lists nothing. -/
theorem barchasi_lists_nothing :
    MarketProductListView.filterCategory (fun _ => none) [Sample.drill]
        { category := some "barchasi" } = [] ∧
      ¬∀ (uuid : String → Option Uuid) (query : CategoryQuery) (products : List ListedProduct),
        MarketProductListView.filterCategory uuid products query =
          filterByCategory uuid ListedProduct.category products query := by
  refine ⟨by decide, fun h => ?_⟩
  have hagree := h (fun _ => none) { category := some "barchasi" } [Sample.drill]
  revert hagree
  decide

end Market

end Homex
