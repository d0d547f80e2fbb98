import SoftFail.Check.Complaint
import SoftFail.Decimal.Natural
import SoftFail.Text.Find
import SoftFail.Text.Lower
import SoftFail.Text.Template

/-! Checks for content that a page would have loaded later: placeholders, further pages and
endless lists. -/

namespace SoftFail.Check

open Text

def lazySigns : List (String × String) := [
  ("data-src", "Lazy-load images not loaded"),
  ("data-lazy", "Lazy content pending"),
  ("loading=\"lazy\"", "Native lazy loading"),
  ("class=\"lazy", "Lazy load class"),
  ("placeholder.", "Placeholder images"),
  ("data:image/svg+xml", "SVG placeholder"),
  ("blur-up", "Progressive image placeholder"),
  ("skeleton", "Skeleton loading state"),
  ("$0.00", "Unloaded price"),
  ("$-.--", "Empty price placeholder"),
  ("n/a", "Missing data placeholder"),
  ("tbd", "To-be-determined placeholder")]

def lazyThreshold : Nat := 3

def maxLazyReported : Nat := 3

def lazyCounts (body : List Char) : List (String × Nat) :=
  let lowered := lower body
  (lazySigns.map fun s => (s.2, count s.1.toList lowered)).filter fun p => lazyThreshold < p.2

/-- Names the most frequent signs; of equally frequent ones the first in the table. -/
def lazyComplaint (body : List Char) : Option Complaint :=
  match (lazyCounts body).mergeSort fun a b => b.2 ≤ a.2 with
  | [] => none
  | counts => some (.unloaded (counts.take maxLazyReported))

def loadMoreTemplates : List Template := [
  .ofWord "class=\"" [.valueWith "load-more".toList],
  .ofWord "id=\"load-more\"" [],
  .ofWord ">load more<" [],
  .ofWord ">show more<" [],
  .ofWord ">view more<" [],
  .ofWord "load additional" [],
  .ofWord "see all " [.digits, .word " items".toList],
  .ofWord "showing " [.digits, .word " of ".toList, .digits]]

def maxExcerpt : Nat := 50

def scrollTriggers : List String :=
  ["data-infinite-scroll", "infinite-scroll-container", "scroll-to-load", "data-next-page"]

def pageWord : List Char := ['p', 'a', 'g', 'e']

def isPageGap (c : Char) : Bool := c = '=' || isBlank c

theorem length_of_pageNumber {s r : List Char} (h : dropWord? pageWord s = some r)
    (p q : Char → Bool) : ((r.dropWhile p).dropWhile q).length < s.length := by
  have h₁ : r.length + 4 = s.length := length_of_dropWord? h
  have h₂ := (List.dropWhile_sublist p (l := r)).length_le
  have h₃ := (List.dropWhile_sublist q (l := r.dropWhile p)).length_le
  omega

/-- A page number: the word, one or more equals signs or blanks, and ASCII digits. -/
def pageNumberLook (s : List Char) : Look s (List Char) :=
  match h : dropWord? pageWord s with
  | none => .pass
  | some r =>
    let t := r.dropWhile isPageGap
    if r.head?.any isPageGap && t.head?.any Char.isDigit then
      .found (t.takeWhile Char.isDigit) (t.dropWhile Char.isDigit) (length_of_pageNumber h _ _)
    else .pass

def pageNumbers (body : List Char) : List Nat :=
  (contents pageNumberLook body).map Decimal.value

def offersNextPage (body : List Char) : Bool :=
  (cutWord? "next page".toList body).isSome || (cutWord? "page 2".toList body).isSome ||
    body.any fun c => c = '→' || c = '»'

def paginationComplaint (body : List Char) : Option Complaint :=
  match loadMoreTemplates.findSome? fun t => t.first? body with
  | some found => some (.loadMore (String.ofList (found.take maxExcerpt)))
  | none =>
    if (pageNumbers body).max? = some 1 && offersNextPage body then some .firstPageOnly
    else
      let lowered := lower body
      (scrollTriggers.find? fun t => contains t.toList lowered).map .infiniteScroll

end SoftFail.Check
