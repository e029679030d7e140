import DocumentDb.Find
import DocumentDb.Proofs.Json.Equality
import DocumentDb.Proofs.Json.Writing
import Mathlib.Data.List.Forall2

/-!
# Projection to paths

A projection writes what the requested paths lead to into an empty object, one path after the other.
Whatever it shows is in the document. It keeps every requested path unless one of them leads into an
array that an earlier one has asked for: a write passes through objects only, so it puts an object
with a single item in place of the array, and the array is lost unless it is asked for again.
-/

namespace DocumentDb

namespace Json

/-! ### Requests -/

/-- Write what each request leads to in a document, one request after the other. -/
def collect (document : Json) (state : Option Json) (requests : List (List String)) : Option Json :=
  requests.foldl (fun state request =>
    match getAt document request with
    | some found => some (writeAt state request found)
    | none => state) state

variable {document : Json} {state : Option Json} {requests : List (List String)}

lemma collect_cons (document : Json) (state : Option Json) (request : List String)
    (requests : List (List String)) :
    collect document state (request :: requests) =
      collect document
        (match getAt document request with
          | some found => some (writeAt state request found)
          | none => state) requests := rfl

lemma collect_append (document : Json) (state : Option Json)
    (before after : List (List String)) :
    collect document state (before ++ after) =
      collect document (collect document state before) after :=
  List.foldl_append

/-- A projection writes below the empty object. -/
lemma some_project (document : Json) (paths : List String) :
    some (document.project paths) =
      collect document (some (.object [])) (paths.map segments) := by
  suffices h : ∀ fields : Fields Json,
      some (Json.object (paths.foldl (fun fields path =>
        match document.get? path with
        | some found => set fields path found
        | none => fields) fields)) =
        collect document (some (.object fields)) (paths.map segments) from h []
  induction paths with
  | nil => intro fields; rfl
  | cons path paths ih =>
    intro fields
    rw [List.foldl_cons, List.map_cons, collect_cons, ih, get?]
    cases getAt document (segments path) with
    | none => rfl
    | some found => simp only [object_set]

/-! ### What is shown is in the document -/

/-- Wherever segments lead in `state`, they lead somewhere in the document as well, and to the same
value where that is neither an array nor an object. -/
def DrawnFrom (state : Option Json) (document : Json) : Prop :=
  ∀ way value, state.bind (getAt · way) = some value →
    ∃ original, getAt document way = some original ∧ (value.isScalar = true → original = value)

lemma drawnFrom_empty (document : Json) : DrawnFrom (some (.object [])) document := by
  intro way value h
  cases way with
  | nil =>
    rw [Option.bind_some, getAt_nil, Option.some.injEq] at h
    subst h
    exact ⟨document, getAt_nil document, fun hscalar => nomatch hscalar⟩
  | cons segment rest => cases h

/-- What lies below a field is drawn from what the document has there. -/
lemma DrawnFrom.field (h : DrawnFrom state document) {segment : String} {child : Json}
    (hchild : getAt document [segment] = some child) :
    DrawnFrom (Fields.value? (objectFields state) segment) child := by
  intro way value hvalue
  obtain ⟨original, horiginal, hsame⟩ := h (segment :: way) value (getAt_of_field hvalue)
  rw [getAt_cons, hchild] at horiginal
  exact ⟨original, horiginal, hsame⟩

lemma DrawnFrom.writeAt (h : DrawnFrom state document) {request : List String} {found : Json}
    (hfound : getAt document request = some found) :
    DrawnFrom (some (writeAt state request found)) document := by
  induction request generalizing state document with
  | nil =>
    rw [getAt_nil, Option.some.injEq] at hfound
    subst hfound
    intro way value hvalue
    exact ⟨value, hvalue, fun _ => rfl⟩
  | cons segment rest ih =>
    rw [getAt_cons] at hfound
    obtain ⟨child, hchild, hrest⟩ := Option.bind_eq_some_iff.mp hfound
    have hbelow := ih (h.field hchild) hrest
    intro way value hvalue
    cases way with
    | nil =>
      rw [Option.bind_some, getAt_nil, Option.some.injEq] at hvalue
      subst hvalue
      exact ⟨document, getAt_nil document, fun hscalar => nomatch hscalar⟩
    | cons key way =>
      by_cases hkey : key = segment
      · subst hkey
        obtain ⟨original, horiginal, hsame⟩ := hbelow way value (by
          simpa [Json.writeAt, getAt, Fields.value?_put] using hvalue)
        refine ⟨original, ?_, hsame⟩
        rw [getAt_cons, hchild]
        exact horiginal
      · refine h (key :: way) value (getAt_of_field ?_)
        simpa [Json.writeAt, getAt, Fields.value?_put, hkey] using hvalue

lemma DrawnFrom.collect (h : DrawnFrom state document) (requests : List (List String)) :
    DrawnFrom (collect document state requests) document := by
  induction requests generalizing state with
  | nil => exact h
  | cons request requests ih =>
    rw [collect_cons]
    apply ih
    cases hfound : getAt document request with
    | none => exact h
    | some found => exact h.writeAt hfound

/-! ### Arrays that are broken up -/

/-- A request leads into an array which an earlier request has asked for, as such or with what it is
in, and which no later request asks for again. -/
structure BreaksUp (document : Json) (before : List (List String)) (request : List String)
    (after : List (List String)) (array : List String) : Prop where
  isArray : ∃ items, getAt document array = some (.array items)
  into : ∃ segment rest, request = array ++ segment :: rest
  found : (getAt document request).isSome = true
  asked : ∃ earlier ∈ before, earlier <+: array
  not_again : ∀ later ∈ after, ¬ later <+: array

/-- Whether one of the requests breaks up an array for the others. -/
def BrokenUp (document : Json) (requests : List (List String)) : Prop :=
  ∃ before request after array, requests = before ++ request :: after ∧
    BreaksUp document before request after array

/-- Requests that do not ask for an array do not bring it back. -/
lemma array_of_collect {array : List String} {items : List Json}
    (hnot : ∀ request ∈ requests, ¬ request <+: array)
    (h : (collect document state requests).bind (getAt · array) = some (.array items)) :
    state.bind (getAt · array) = some (.array items) := by
  induction requests generalizing state with
  | nil => exact h
  | cons request requests ih =>
    rw [List.forall_mem_cons] at hnot
    rw [collect_cons] at h
    have hstep := ih hnot.2 h
    cases hfound : getAt document request with
    | none => simpa [hfound] using hstep
    | some found =>
      rw [hfound] at hstep
      exact getAt_of_writeAt hnot.1 hstep

/-- An array that is broken up is not shown. -/
lemma BreaksUp.not_array {before after : List (List String)} {request array : List String}
    (h : BreaksUp document before request after array) (state : Option Json) (items : List Json) :
    (collect document state (before ++ request :: after)).bind (getAt · array) ≠
      some (.array items) := by
  intro harray
  obtain ⟨found, hfound⟩ := Option.isSome_iff_exists.mp h.found
  rw [collect_append, collect_cons, hfound] at harray
  have hwritten := array_of_collect h.not_again harray
  obtain ⟨segment, rest, rfl⟩ := h.into
  obtain ⟨fields, hfields⟩ := getAt_writeAt_front (collect document state before) array segment rest
    found
  rw [Option.bind_some, hfields] at hwritten
  cases hwritten

/-- An array that is broken up is lost for the request that has asked for it. -/
lemma BreaksUp.lost {before after : List (List String)} {request array : List String}
    (h : BreaksUp document before request after array) (state : Option Json) :
    ∃ earlier ∈ before,
      (collect document state (before ++ request :: after)).bind (getAt · earlier) ≠
        getAt document earlier := by
  obtain ⟨items, hitems⟩ := h.isArray
  obtain ⟨earlier, hmem, below, rfl⟩ := h.asked
  refine ⟨earlier, hmem, fun hkept => h.not_array state items ?_⟩
  simp only [getAt_append] at hitems ⊢
  rw [← Option.bind_assoc, hkept, hitems]

/-! ### Requests below a field -/

/-- A request as it looks from below a field: one for the whole asks for all of what is there. -/
def descend? (segment : String) : List String → Option (List String)
  | [] => some []
  | first :: rest => if first = segment then some rest else none

lemma descend?_eq_some_iff {segment : String} {request rest : List String} :
    descend? segment request = some rest ↔
      request = segment :: rest ∨ request = [] ∧ rest = [] := by
  cases request with
  | nil => simp [descend?, eq_comm]
  | cons first tail => simp [descend?]

/-- The requests as they look from below a field. -/
def descend (segment : String) (requests : List (List String)) : List (List String) :=
  requests.filterMap (descend? segment)

lemma mem_descend {segment : String} {rest : List String} (h : segment :: rest ∈ requests) :
    rest ∈ descend segment requests :=
  List.mem_filterMap.mpr ⟨_, h, descend?_eq_some_iff.mpr (.inl rfl)⟩

/-- What is broken up below a field is broken up. -/
lemma BrokenUp.of_descend {segment : String} {child : Json}
    (hchild : getAt document [segment] = some child)
    (h : BrokenUp child (descend segment requests)) : BrokenUp document requests := by
  obtain ⟨before, request, after, array, heq, hbreaks⟩ := h
  obtain ⟨front, back, rfl, rfl, hback⟩ := List.filterMap_eq_append_iff.mp heq
  obtain ⟨skipped, whole, later, rfl, -, hwhole, rfl⟩ := List.filterMap_eq_cons_iff.mp hback
  have hbelow (way : List String) : getAt document (segment :: way) = getAt child way := by
    rw [getAt_cons, hchild]
    rfl
  have hrequest : whole = segment :: request := by
    obtain ⟨key, rest, hinto⟩ := hbreaks.into
    rcases descend?_eq_some_iff.mp hwhole with hwhole | ⟨-, hnil⟩
    · exact hwhole
    · simp [hnil] at hinto
  subst hrequest
  refine ⟨front ++ skipped, segment :: request, later, segment :: array, by simp, ?_⟩
  constructor
  case isArray => simpa only [hbelow] using hbreaks.isArray
  case into =>
    obtain ⟨key, rest, rfl⟩ := hbreaks.into
    exact ⟨key, rest, rfl⟩
  case found => simpa only [hbelow] using hbreaks.found
  case asked =>
    obtain ⟨rest, hrest, habove⟩ := hbreaks.asked
    obtain ⟨earlier, hearlier, hdescend⟩ := List.mem_filterMap.mp hrest
    refine ⟨earlier, List.mem_append_left _ hearlier, ?_⟩
    rcases descend?_eq_some_iff.mp hdescend with rfl | ⟨rfl, -⟩
    · exact List.cons_prefix_cons.mpr ⟨rfl, habove⟩
    · exact List.nil_prefix
  case not_again =>
    intro request hrequest habove
    have hnot {rest : List String} (h : descend? segment request = some rest) : ¬ rest <+: array :=
      hbreaks.not_again rest (List.mem_filterMap.mpr ⟨request, hrequest, h⟩)
    cases request with
    | nil => exact hnot rfl List.nil_prefix
    | cons first rest =>
      obtain ⟨rfl, hrest⟩ := List.cons_prefix_cons.mp habove
      exact hnot (if_pos rfl) hrest

/-- Requests in front do not mend what is broken up. -/
lemma BrokenUp.append_left {requests : List (List String)} (h : BrokenUp document requests)
    (before : List (List String)) : BrokenUp document (before ++ requests) := by
  obtain ⟨front, request, after, array, rfl, hbreaks⟩ := h
  refine ⟨before ++ front, request, after, array, by simp, { hbreaks with asked := ?_ }⟩
  obtain ⟨earlier, hearlier, habove⟩ := hbreaks.asked
  exact ⟨earlier, List.mem_append_right _ hearlier, habove⟩

/-! ### What is kept -/

/-- A property holds of a value if it follows from the values that single segments lead to. -/
lemma induction_on_children {motive : Json → Prop}
    (h : ∀ value, (∀ segment child, getAt value [segment] = some child → motive child) →
      motive value) (value : Json) : motive value := by
  induction value using Json.induction with
  | null | bool | number | string => exact h _ fun _ _ hchild => nomatch hchild
  | array items ih =>
    refine h _ fun segment child hchild => ih child ?_
    obtain ⟨item, hitem, hsame⟩ := Option.bind_eq_some_iff.mp hchild
    obtain ⟨position, -, hposition⟩ := Option.bind_eq_some_iff.mp hitem
    rw [getAt_nil, Option.some.injEq] at hsame
    exact hsame ▸ List.mem_of_getElem? hposition
  | object fields ih =>
    refine h _ fun segment child hchild => ?_
    obtain ⟨value, hvalue, hsame⟩ := Option.bind_eq_some_iff.mp hchild
    obtain ⟨before, after, rfl, -⟩ := List.lookup_eq_some_iff.mp hvalue
    rw [getAt_nil, Option.some.injEq] at hsame
    exact hsame ▸ ih (segment, value) (by simp)

/-- Below a field lies what the requests below the field collect there. -/
lemma value?_collect (state : Option Json) {segment : String} {child : Json}
    (hchild : getAt document [segment] = some child) (hwhole : [] ∉ requests) :
    Fields.value? (objectFields (collect document state requests)) segment =
      collect child (Fields.value? (objectFields state) segment) (descend segment requests) := by
  induction requests generalizing state with
  | nil => rfl
  | cons request requests ih =>
    rw [List.mem_cons, not_or] at hwhole
    rw [collect_cons, ih _ hwhole.2]
    cases request with
    | nil => exact absurd rfl hwhole.1
    | cons key rest =>
      by_cases hkey : key = segment
      · subst hkey
        rw [getAt_cons, hchild, Option.bind_some]
        have hdescend : descend key ((key :: rest) :: requests) = rest :: descend key requests := by
          simp [descend, descend?]
        rw [hdescend, collect_cons]
        cases getAt child rest with
        | none => rfl
        | some found => simp only [value?_writeAt, if_true]
      · have hdescend : descend segment ((key :: rest) :: requests) = descend segment requests := by
          simp [descend, descend?, hkey]
        rw [hdescend]
        cases getAt document (key :: rest) with
        | none => rfl
        | some found => simp only [value?_writeAt, if_neg (Ne.symm hkey)]

/-- What is collected from an object is written under its keys. -/
lemma collect_object (fields shown : Fields Json) (hwhole : [] ∉ requests) :
    ∃ writes : List (String × Json), (∀ write ∈ writes, write.1 ∈ Fields.keys fields) ∧
      collect (.object fields) (some (.object shown)) requests =
        some (.object (Fields.putAll shown writes)) := by
  induction requests generalizing shown with
  | nil => exact ⟨[], by simp, rfl⟩
  | cons request requests ih =>
    rw [List.mem_cons, not_or] at hwhole
    rw [collect_cons]
    cases hfound : getAt (.object fields) request with
    | none => exact ih shown hwhole.2
    | some found =>
      cases request with
      | nil => exact absurd rfl hwhole.1
      | cons key rest =>
        obtain ⟨child, hchild, -⟩ := Option.bind_eq_some_iff.mp hfound
        obtain ⟨writes, hwrites, hcollect⟩ := ih (Fields.put shown key
          (writeAt (Fields.value? shown key) rest found)) hwhole.2
        refine ⟨(key, writeAt (Fields.value? shown key) rest found) :: writes, ?_, hcollect⟩
        have hkey : key ∈ Fields.keys fields := by
          rw [← Fields.isSome_value?_iff, hchild]
          rfl
        exact List.forall_mem_cons.mpr ⟨hkey, hwrites⟩

/-- Requests that lead nowhere collect nothing. -/
lemma collect_of_missing (h : ∀ request ∈ requests, getAt document request = none) :
    collect document state requests = state := by
  induction requests with
  | nil => rfl
  | cons request requests ih =>
    rw [List.forall_mem_cons] at h
    rw [collect_cons, h.1]
    exact ih h.2

/-- Where nothing is broken up, requests for parts of a whole that is there change nothing. -/
lemma collect_whole
    (ih : ∀ segment child, getAt document [segment] = some child → ∀ requests,
      ¬ BrokenUp child ([] :: requests) → collect child (some child) requests = some child)
    (hkept : ¬ BrokenUp document ([] :: requests)) (hwhole : [] ∉ requests) :
    collect document (some document) requests = some document := by
  cases document with
  | object fields =>
    obtain ⟨writes, hwrites, hcollect⟩ := collect_object fields fields hwhole
    have hsame : Fields.putAll fields writes = fields := by
      apply Fields.putAll_eq_self hwrites
      intro key
      cases hvalue : Fields.value? fields key with
      | none =>
        rw [Fields.value?_putAll_of_notMem, hvalue]
        rintro write hwrite rfl
        have hsome := Fields.isSome_value?_iff.mpr (hwrites write hwrite)
        rw [hvalue] at hsome
        cases hsome
      | some child =>
        have hchild : getAt (.object fields) [key] = some child := by
          simp [getAt, hvalue]
        have hbelow := value?_collect (some (.object fields)) hchild hwhole
        rw [hcollect] at hbelow
        simp only [objectFields, hvalue] at hbelow
        rw [hbelow]
        exact ih key child hchild _ fun hbroken => hkept (hbroken.of_descend hchild)
    rw [hcollect, hsame]
  | array items =>
    apply collect_of_missing
    intro request hrequest
    by_contra hfound
    obtain ⟨before, after, rfl⟩ := List.append_of_mem hrequest
    obtain ⟨segment, rest, rfl⟩ : ∃ segment rest, request = segment :: rest := by
      apply List.exists_cons_of_ne_nil
      rintro rfl
      exact hwhole hrequest
    refine hkept ⟨[] :: before, segment :: rest, after, [], rfl, ?_⟩
    constructor
    case isArray => exact ⟨items, getAt_nil _⟩
    case into => exact ⟨segment, rest, rfl⟩
    case found => exact Option.isSome_iff_ne_none.mpr hfound
    case asked => exact ⟨[], List.mem_cons_self, List.nil_prefix⟩
    case not_again =>
      intro later hlater habove
      rw [List.prefix_nil.mp habove] at hlater
      exact hwhole (List.mem_append_right _ (List.mem_cons_of_mem _ hlater))
  | null | bool | number | string =>
    apply collect_of_missing
    intro request hrequest
    cases request with
    | nil => exact absurd hrequest hwhole
    | cons segment rest => rfl

/-- The last of the requests for the whole. -/
lemma exists_last_whole (h : [] ∈ requests) :
    ∃ before after, requests = before ++ [] :: after ∧ [] ∉ after := by
  obtain ⟨after, before, hsplit, hafter⟩ := List.eq_append_cons_of_mem (List.mem_reverse.mpr h)
  refine ⟨before.reverse, after.reverse, ?_, mt List.mem_reverse.mp hafter⟩
  rw [← List.reverse_reverse requests, hsplit]
  simp

/-- Where nothing is broken up, every request is kept. -/
lemma collect_kept (hkept : ¬ BrokenUp document requests) {request : List String}
    (hrequest : request ∈ requests) {found : Json} (hfound : getAt document request = some found) :
    (collect document state requests).bind (getAt · request) = some found := by
  induction document using induction_on_children generalizing state requests request found with
  | h document ih =>
    by_cases hwhole : [] ∈ requests
    · -- The last request for the whole brings all back, and what comes after changes nothing.
      obtain ⟨before, after, rfl, hafter⟩ := exists_last_whole hwhole
      have hdocument : collect document (some document) after = some document := by
        apply collect_whole
        · intro segment child hchild below hbelow
          have hchildren : (collect child none ([] :: below)).bind (getAt · []) = some child :=
            ih segment child hchild hbelow List.mem_cons_self (getAt_nil child)
          simpa [collect_cons, writeAt] using hchildren
        · exact fun hbroken => hkept (hbroken.append_left before)
        · exact hafter
      rw [collect_append, collect_cons, getAt_nil]
      simp only [writeAt, hdocument]
      exact hfound
    · cases request with
      | nil => exact absurd hrequest hwhole
      | cons segment rest =>
        rw [getAt_cons] at hfound
        obtain ⟨child, hchild, hrest⟩ := Option.bind_eq_some_iff.mp hfound
        apply getAt_of_field
        rw [value?_collect state hchild hwhole]
        exact ih segment child hchild (fun hbroken => hkept (hbroken.of_descend hchild))
          (mem_descend hrequest) hrest

/-- All requests are kept unless one of them breaks up an array. -/
lemma collect_kept_iff (document : Json) (requests : List (List String)) :
    (∀ request ∈ requests, (collect document (some (.object [])) requests).bind (getAt · request) =
      getAt document request) ↔ ¬ BrokenUp document requests := by
  constructor
  · rintro hkept ⟨before, request, after, array, rfl, hbreaks⟩
    obtain ⟨earlier, hearlier, hlost⟩ := hbreaks.lost (some (.object []))
    exact hlost (hkept earlier (List.mem_append_left _ hearlier))
  · intro hkept request hrequest
    cases hfound : getAt document request with
    | some found => exact collect_kept hkept hrequest hfound
    | none =>
      by_contra hshown
      obtain ⟨value, hvalue⟩ := Option.ne_none_iff_exists'.mp hshown
      obtain ⟨original, horiginal, -⟩ :=
        (drawnFrom_empty document).collect requests request value hvalue
      rw [hfound] at horiginal
      cases horiginal

end Json

/-! ### Projected documents -/

/-- How a document looks that is shown by some of its paths only. -/
structure Shows (paths : List String) (document projected : Json) : Prop where
  /-- Each path keeps its value, or is missing still, unless one path breaks up an array that
  another has asked for. -/
  kept_iff : (∀ path ∈ paths, projected.get? path = document.get? path) ↔
    ¬ Json.BrokenUp document (paths.map Json.segments)
  /-- Nothing is found at a path that leads nowhere in the document, -/
  missing : ∀ path, document.get? path = none → projected.get? path = none
  /-- and a value that is neither an array nor an object is the one of the document. -/
  scalar : ∀ path value, projected.get? path = some value → value.isScalar = true →
    document.get? path = some value

lemma Json.shows_project (paths : List String) (document : Json) :
    Shows paths document (document.project paths) := by
  have hdrawn : DrawnFrom (some (document.project paths)) document := by
    rw [some_project]
    exact (drawnFrom_empty document).collect _
  constructor
  case kept_iff =>
    rw [← collect_kept_iff, ← some_project, List.forall_mem_map]
    rfl
  case missing =>
    intro path hpath
    by_contra hshown
    obtain ⟨value, hvalue⟩ := Option.ne_none_iff_exists'.mp hshown
    obtain ⟨original, horiginal, -⟩ := hdrawn (segments path) value hvalue
    exact nomatch hpath.symm.trans horiginal
  case scalar =>
    intro path value hvalue hscalar
    obtain ⟨original, horiginal, hsame⟩ := hdrawn (segments path) value hvalue
    rw [← hsame hscalar]
    exact horiginal

/-- A request for some paths finds the documents that it finds without, each shown by these paths:
they keep their values unless one of them leads into an array that another has asked for. -/
theorem find_shows_paths {documents : List Json} {request : FindRequest} {response : FindResponse}
    (hfields : request.fields ≠ []) (hfind : find documents request = .ok response) :
    ∃ whole, find documents { request with fields := [] } = .ok whole ∧
      List.Forall₂ (Shows request.fields) whole.documents response.documents := by
  simp only [find, List.isEmpty_eq_false_iff.mpr hfields] at hfind ⊢
  cases hselector : Selector.ofJson request.selector with
  | error cause => simp [hselector] at hfind
  | ok selector =>
    rw [hselector, Except.ok.injEq] at hfind
    subst hfind
    refine ⟨_, rfl, ?_⟩
    simp only [List.isEmpty_nil, if_true, Bool.false_eq_true, if_false]
    rw [List.forall₂_map_right_iff]
    apply List.forall₂_same.mpr
    intro document _
    exact Json.shows_project request.fields document

/-- A document that is found alone by a request for paths of all documents. -/
lemma find_alone (document : Json) (paths : List String) :
    find [document] { FindRequest.ofSelector (.object []) with fields := paths } =
      .ok ⟨[if paths.isEmpty then document else document.project paths], none⟩ := by
  have hselector : Selector.ofJson (.object []) = .ok (.mk []) := by
    simp [Selector.ofJson, Selector.clausesOf, Except.map]
  have hnarrow : (Selector.mk []).narrow [document].zipIdx = [(document, 0)] := by
    simp [Selector.narrow, Selector.narrowClauses]
  simp only [find, FindRequest.ofSelector, hselector, hnarrow]
  cases paths <;> rfl

/-- A tag and the name of an author keep their values, as neither path leads into the other. -/
theorem find_shows_paths_apart :
    let document : Json := .object
      [("author", .object [("name", .string "Ann"), ("age", .int 30)]),
        ("tags", .array [.string "x", .string "y"])]
    let request : FindRequest :=
      { FindRequest.ofSelector (.object []) with fields := ["tags.1", "author.name"] }
    let projected : Json := .object
      [("tags", .object [("1", .string "y")]), ("author", .object [("name", .string "Ann")])]
    request.fields ≠ [] ∧ find [document] request = .ok ⟨[projected], none⟩ ∧
      Shows request.fields document projected := by
  intro document request projected
  have hfields : request.fields ≠ [] := List.cons_ne_nil _ _
  have hfind : find [document] request = .ok ⟨[projected], none⟩ :=
    find_alone document ["tags.1", "author.name"]
  obtain ⟨whole, hwhole, hshows⟩ := find_shows_paths hfields hfind
  rw [show find [document] { request with fields := [] } = .ok ⟨[document], none⟩ from
    find_alone document [], Except.ok.injEq] at hwhole
  subst hwhole
  exact ⟨hfields, hfind, (List.forall₂_cons.mp hshows).1⟩

/-- A path into an array breaks up the array that an earlier path has asked for. -/
theorem not_find_shows_paths_whole :
    let document : Json := .object [("tags", .array [.string "x", .string "y"])]
    let request : FindRequest :=
      { FindRequest.ofSelector (.object []) with fields := ["tags", "tags.0"] }
    let projected : Json := .object [("tags", .object [("0", .string "x")])]
    find [document] request = .ok ⟨[projected], none⟩ ∧
      ¬ ∀ path ∈ request.fields, projected.get? path = document.get? path := by
  intro document request projected
  refine ⟨find_alone document ["tags", "tags.0"], fun hkept => ?_⟩
  have htags := hkept "tags" List.mem_cons_self
  cases htags

end DocumentDb
