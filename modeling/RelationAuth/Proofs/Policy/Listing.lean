import RelationAuth.Policy.Checker
import RelationAuth.Proofs.Policy.PageToken
import RelationAuth.Proofs.Policy.TupleStore

/-!
# Complete listings

The pages of a listing, read one after the other, hold the tuples that a filter admits, each once
and in listing order.  The cursors of the pages are words of 64 bits, and so are the sizes of stores
that a memory can hold.
-/

namespace RelationAuth.Policy

namespace TupleFilter

@[simp]
theorem admits_none {α : Type} [DecidableEq α] {value : α} : admits none value = true :=
  rfl

@[simp]
theorem admits_some_iff {α : Type} [DecidableEq α] {given value : α} :
    admits (some given) value ↔ value = given := by
  simp [admits, eq_comm]

@[simp]
theorem admits_nonEmpty?_iff {text value : String} :
    admits (nonEmpty? text) value ↔ text = "" ∨ value = text := by
  by_cases empty : text = "" <;> simp [nonEmpty?, empty]

/-- A request that names what a listing is about selects some tuples for it. -/
theorem exists_selectedBy {direction : Direction} {request : PolicyRequest}
    (named : request.anchor direction ≠ "") :
    ∃ filter, selectedBy direction request = .ok filter := by
  cases direction with
  | objects => exact ⟨_, if_neg named⟩
  | subjects => exact ⟨_, if_neg named⟩

end TupleFilter

namespace TupleStore

variable {store : TupleStore} {filter : TupleFilter} {tuple : RelationTuple}

/-- Whether the tuples of a store can be counted with words of 64 bits, as they can wherever a
memory holds them. -/
def Addressable (store : TupleStore) : Prop :=
  store.size < word64Bound

instance : Decidable store.Addressable :=
  inferInstanceAs (Decidable (store.size < word64Bound))

theorem Addressable.ofWrite {written : List RelationTuple}
    (addressable : (store.write written).Addressable) : store.Addressable :=
  Nat.lt_of_le_of_lt tuples_sublist_write.length_le addressable

theorem Addressable.delete (addressable : store.Addressable) (deleted : List RelationTuple) :
    (store.delete deleted).Addressable :=
  Nat.lt_of_le_of_lt tuples_delete_sublist.length_le addressable

theorem tuplesOf_sublist {subject : Subject} :
    (tuplesOf subject (store.edgesOf subject)).Sublist store.tuples := by
  rcases found : store.bySubject.find? subject with _ | edges
  · simp [tuplesOf, edgesOf, found]
  · have mem : tuplesOf subject edges ∈ store.bySubject.rows.map fun row => tuplesOf row.1 row.2 :=
      List.mem_map.mpr ⟨(subject, edges), Table.mem_rows_iff.mpr found, rfl⟩
    simpa [edgesOf, found, tuples, List.flatMap_def] using List.sublist_flatten_of_mem mem

theorem mem_tuplesOf_iff {subject : Subject} :
    tuple ∈ tuplesOf subject (store.edgesOf subject) ↔
      tuple ∈ store.tuples ∧ tuple.subject = subject := by
  simp only [tuplesOf, List.mem_map, Edge.toTuple_eq_iff]
  constructor
  · rintro ⟨edge, mem, rfl, rfl⟩
    exact ⟨mem_tuples_iff.mpr mem, rfl⟩
  · rintro ⟨mem, rfl⟩
    exact ⟨_, mem_tuples_iff.mp mem, rfl, rfl⟩

/-- A listing has the stored tuples that its filter admits, whichever candidates it looks
through. -/
theorem mem_matching_iff :
    tuple ∈ store.matching filter ↔ tuple ∈ store.tuples ∧ filter.admitsTuple tuple := by
  simp only [matching, List.mem_mergeSort, List.mem_filter]
  refine and_congr_left fun admitted => ?_
  unfold candidates
  split
  · rename_i subject named
    have same : tuple.subject = subject := by
      simp only [TupleFilter.admitsTuple, named, Bool.and_eq_true,
        TupleFilter.admits_some_iff] at admitted
      exact admitted.2
    simp [mem_tuplesOf_iff, same]
  · rfl

theorem length_matching_le : (store.matching filter).length ≤ store.size := by
  have candidates : (store.candidates filter).length ≤ store.size := by
    unfold candidates
    split
    · exact tuplesOf_sublist.length_le
    · exact Nat.le_refl _
  simpa [matching] using Nat.le_trans (List.length_filter_le _ _) candidates

theorem read_of_decode {token : String} {cursor limit : Nat}
    (decoded : PageToken.decode token = .ok cursor) :
    store.read filter token limit = .ok (pageAt (store.matching filter) cursor limit) := by
  simp [read, decoded, bind, Except.bind, pure, Except.pure]

theorem pageAt_of_more {all : List RelationTuple} {cursor limit : Nat}
    (more : cursor + limit < all.length) :
    pageAt all cursor limit =
      { tuples := (all.drop cursor).take limit
        nextPageToken := PageToken.encode (cursor + limit) } := by
  have full : ((all.drop cursor).take limit).length = limit := by
    simp
    omega
  simp only [pageAt, full, if_pos more]

theorem pageAt_of_last {all : List RelationTuple} {cursor limit : Nat}
    (last : ¬cursor + limit < all.length) :
    pageAt all cursor limit = { tuples := all.drop cursor, nextPageToken := "" } := by
  have rest : (all.drop cursor).take limit = all.drop cursor :=
    List.take_of_length_le (by simp; omega)
  have ended : ¬cursor + (all.drop cursor).length < all.length := by
    simp
    omega
  simp only [pageAt, rest, if_neg ended]

/-- The token after a full page of an addressable listing leads to the next cursor, so it is another
one. -/
theorem decode_of_more (addressable : store.Addressable) {token : String} {cursor limit : Nat}
    (decoded : PageToken.decode token = .ok cursor) (positive : 0 < limit)
    (more : cursor + limit < (store.matching filter).length) :
    PageToken.decode (PageToken.encode (cursor + limit)) = .ok (cursor + limit) ∧
      PageToken.encode (cursor + limit) ≠ token := by
  have bounded : (store.matching filter).length < word64Bound :=
    Nat.lt_of_le_of_lt length_matching_le addressable
  have next := PageToken.decode_encode (show cursor + limit < word64Bound by omega)
  refine ⟨next, ?_⟩
  intro same
  rw [same, decoded, Except.ok.injEq] at next
  omega

end TupleStore

/-! ### Pages -/

/-- The pages of a listing from a token on.  Each page is read with the token of the one before, and
the last one has none. -/
inductive Pages (read : String → Except PolicyError TuplePage) : String → List TuplePage → Prop where
  | last {token : String} {page : TuplePage} (answered : read token = .ok page)
      (ended : page.nextPageToken = "") : Pages read token [page]
  | next {token : String} {page : TuplePage} {later : List TuplePage}
      (answered : read token = .ok page) (more : page.nextPageToken ≠ "")
      (fresh : page.nextPageToken ≠ token) (onward : Pages read page.nextPageToken later) :
      Pages read token (page :: later)

/-- From any cursor on, the pages of a listing hold the rest of it.  Each page but the last moves the
cursor on, so their number is bounded by what is left. -/
theorem TupleStore.exists_pages {store : TupleStore} (addressable : store.Addressable)
    (filter : TupleFilter) {limit : Nat} (positive : 0 < limit) {token : String} {cursor : Nat}
    (decoded : PageToken.decode token = .ok cursor) :
    ∃ pages, Pages (store.read filter · limit) token pages ∧
      pages.flatMap TuplePage.tuples = (store.matching filter).drop cursor ∧
      pages.length ≤ (store.matching filter).length - cursor + 1 := by
  induction left : (store.matching filter).length - cursor using Nat.strongRecOn
    generalizing cursor token with
  | ind left ih =>
    by_cases more : cursor + limit < (store.matching filter).length
    · rcases decode_of_more addressable decoded positive more with ⟨next, fresh⟩
      rcases ih _ (by omega) next rfl with ⟨later, onward, rest, few⟩
      refine ⟨_ :: later, .next ((read_of_decode decoded).trans (congrArg _ (pageAt_of_more more)))
        (PageToken.encode_ne_empty _) fresh onward, ?_, ?_⟩
      · rw [List.flatMap_cons, rest, ← List.drop_drop, List.take_append_drop]
      · rw [List.length_cons]
        omega
    · refine ⟨_, .last ((read_of_decode decoded).trans (congrArg _ (pageAt_of_last more))) rfl, ?_, ?_⟩
      · simp
      · simp

/-- All pages of a listing hold what the filter admits. -/
theorem TupleStore.exists_pages_of_all {store : TupleStore} (addressable : store.Addressable)
    (filter : TupleFilter) {limit : Nat} (positive : 0 < limit) :
    ∃ pages, Pages (store.read filter · limit) "" pages ∧
      pages.flatMap TuplePage.tuples = store.matching filter ∧ pages.length ≤ store.size + 1 := by
  have start : PageToken.decode "" = .ok 0 := rfl
  rcases exists_pages addressable filter positive start with ⟨pages, read, all, few⟩
  have shorter : (store.matching filter).length ≤ store.size := length_matching_le
  exact ⟨pages, read, all, by omega⟩

namespace TupleReader

variable {reader : TupleReader} {filter : TupleFilter}

/-- A reader that is given enough rounds reads all pages. -/
theorem readFrom_of_pages {token : String} {pages : List TuplePage}
    (read : Pages (reader.read filter · checkPageSize) token pages) {bound : Nat}
    (enough : pages.length ≤ bound) :
    reader.readFrom filter bound token = .ok (pages.flatMap TuplePage.tuples) := by
  induction read generalizing bound with
  | last answered ended =>
    rcases bound with _ | bound
    · simp at enough
    · simp [readFrom, answered, ended, bind, Except.bind, pure, Except.pure]
  | next answered more fresh _ ih =>
    rcases bound with _ | bound
    · simp at enough
    · have rest := ih (Nat.le_of_succ_le_succ enough)
      simp [readFrom, answered, more, fresh, rest, bind, Except.bind, pure, Except.pure]

theorem readAll_store {store : TupleStore} (addressable : store.Addressable)
    (filter : TupleFilter) :
    (TupleRepository.inMemory.reader store).readAll filter = .ok (store.matching filter) := by
  have positive : 0 < checkPageSize := by decide
  rcases store.exists_pages_of_all addressable filter positive with ⟨pages, read, all, few⟩
  rw [← all]
  exact readFrom_of_pages read few

/-- A page of stored tuples ends the rest of a listing, or the rest goes on at the next cursor. -/
theorem readFrom_store {store : TupleStore} {token : String} {cursor : Nat}
    (decoded : PageToken.decode token = .ok cursor) (bound : Nat) :
    (TupleRepository.inMemory.reader store).readFrom filter (bound + 1) token =
      if cursor + checkPageSize < (store.matching filter).length then do
        let later ← (TupleRepository.inMemory.reader store).readFrom filter bound
          (PageToken.encode (cursor + checkPageSize))
        return ((store.matching filter).drop cursor).take checkPageSize ++ later
      else .ok ((store.matching filter).drop cursor) := by
  have page : (TupleRepository.inMemory.reader store).read filter token checkPageSize =
      .ok (TupleStore.pageAt (store.matching filter) cursor checkPageSize) :=
    TupleStore.read_of_decode decoded
  by_cases more : cursor + checkPageSize < (store.matching filter).length
  · have fresh : PageToken.encode (cursor + checkPageSize) ≠ token := by
      rintro rfl
      have positive : 0 < checkPageSize := by decide
      rw [PageToken.decode_encode_eq] at decoded
      split at decoded
      · rw [Except.ok.injEq] at decoded
        omega
      · cases decoded
    simp [readFrom, page, TupleStore.pageAt_of_more more, more, fresh, PageToken.encode_ne_empty,
      bind, Except.bind]
  · simp [readFrom, page, TupleStore.pageAt_of_last more, more, bind, Except.bind, pure, Except.pure]

/-- The rest of a listing is the same with any number of pages that suffices, also where a cursor
gets too large for its token. -/
theorem readFrom_of_enough {store : TupleStore} {token : String} {cursor few more : Nat}
    (decoded : PageToken.decode token = .ok cursor)
    (enough : (store.matching filter).length < cursor + few) (fewer : few ≤ more) :
    (TupleRepository.inMemory.reader store).readFrom filter more token =
      (TupleRepository.inMemory.reader store).readFrom filter few token := by
  have positive : 0 < checkPageSize := by decide
  induction few generalizing cursor token more with
  | zero =>
    rcases more with _ | more
    · rfl
    · rw [readFrom_store decoded, if_neg (by omega), List.drop_eq_nil_of_le (by omega)]
      rfl
  | succ few ih =>
    obtain ⟨more, rfl⟩ : ∃ others, more = others + 1 := ⟨more - 1, by omega⟩
    rw [readFrom_store decoded, readFrom_store decoded]
    split
    · have further : 0 < few := by omega
      suffices rest : (TupleRepository.inMemory.reader store).readFrom filter more
            (PageToken.encode (cursor + checkPageSize)) =
          (TupleRepository.inMemory.reader store).readFrom filter few
            (PageToken.encode (cursor + checkPageSize)) by
        rw [rest]
      have next := PageToken.decode_encode_eq (cursor + checkPageSize)
      split at next
      · exact ih next (by omega) (by omega)
      · -- Both readings stop at the token that is too large.
        obtain ⟨few, rfl⟩ : ∃ others, few = others + 1 := ⟨few - 1, by omega⟩
        obtain ⟨more, rfl⟩ : ∃ others, more = others + 1 := ⟨more - 1, by omega⟩
        simp [readFrom, TupleRepository.reader, TupleRepository.inMemory, TupleStore.read, next, bind,
          Except.bind]
    · rfl

end TupleReader

end RelationAuth.Policy
