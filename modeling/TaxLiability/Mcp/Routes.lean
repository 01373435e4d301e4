import Mathlib.Data.List.TakeWhile
import TaxLiability.Machinery.Url
import TaxLiability.Mcp.Amounts
import TaxLiability.Orders.RefundService

/-!
# Mcp/Routes — the order a request is about

    "/orders/" + order_id ──up to ? or #──▸ quote ──▸ drop . and .. ──▸ orders, orderId ──▸ getOrder

The id goes into the URL as it is, so what it says there may be another path than the one that was
meant: `x/../ord-1` is the order `ord-1`.  `acts_on_iff` says which ids are read as what they are.
-/

open Url

namespace Mcp

/-! ## The HTTP client -/

/-- The characters a path may have as they are. -/
def pathSafe (c : Char) : Bool :=
  0x20 < c.toNat && c.toNat < 0x7f && c ∉ ['"', '#', '<', '>', '?', '`', '\x7b', '\x7d']

/-- What stands before the query and the fragment of a URL. -/
def pathOf (url : List Char) : List Char := url.takeWhile fun c => c ≠ '?' && c ≠ '#'

/-- **The path that is sent** for a URL, next to a base URL without one. -/
def target (url : String) : List Char :=
  let path := normalizePath (encode pathSafe (pathOf url.toList))
  if path = [] then ['/'] else path

/-! ## The order service -/

/-- **What the service runs in**: the characters its HTTP server takes in a path, and its
decoder. -/
structure Container where
  takes : Char → Bool
  /-- letters, digits, slashes and escapes are always taken -/
  plain : ∀ c, c.isAlphanum ∨ c = '/' ∨ c = '%' → takes c
  utf8 : Decoder

/-- **The routes of `OrderController`**, with the variable of their path. -/
inductive Route
  | getOrder (orderId : String)
  | createRefund (orderId : String)
  | countRefunds (orderId : String)
  deriving DecidableEq, Repr

def Route.orderId : Route → String
  | .getOrder orderId | .createRefund orderId | .countRefunds orderId => orderId

/-- A segment as routes are matched with it: decoded, without its parameters. -/
def Container.segment (S : Container) (s : List Char) : Option (List Char) :=
  S.utf8.uriDecode (s.takeWhile (· ≠ ';'))

/-- The segments of a path, if the server takes it. -/
def Container.segments (S : Container) (path : List Char) : Option (List (List Char)) :=
  if path.all S.takes then (path.splitOn '/').mapM S.segment else none

/-- **The route of a request**: no variable is empty. -/
def route : Method → List (List Char) → Option Route
  | .get, [root, orders, orderId] =>
    if root = [] ∧ orders = "orders".toList ∧ orderId ≠ [] then
      some (.getOrder (String.ofList orderId))
    else none
  | .get, [root, orders, orderId, refunds] =>
    if root = [] ∧ orders = "orders".toList ∧ orderId ≠ [] ∧ refunds = "refunds".toList then
      some (.countRefunds (String.ofList orderId))
    else none
  | .post, [root, orders, orderId, refunds] =>
    if root = [] ∧ orders = "orders".toList ∧ orderId ≠ [] ∧ refunds = "refunds".toList then
      some (.createRefund (String.ofList orderId))
    else none
  | _, _ => none

/-- Where a request of the client gets to. -/
def Container.resolve (S : Container) (q : Request) : Option Route :=
  (S.segments (target q.url)).bind (route q.method)

/-! ## The promise -/

/-- The order a call is about. -/
def Args.orderId : Args → Option (Str 1 64)
  | .getOrder args => some args.order_id
  | .createRefund args => some args.order_id
  | .chat _ | .retrieveAndGenerate _ => none

/-- The route a call is meant for. -/
def Args.route : Args → Option Route
  | .getOrder args => some (.getOrder args.order_id.1)
  | .createRefund args => some (.createRefund args.order_id.1)
  | .chat _ | .retrieveAndGenerate _ => none

/-- **The order acted on is the order that was validated**, and a refund's is the one its body
names. -/
structure ActsOn (S : Container) (C : Context) (args : Args) : Prop where
  resolved : ∀ r q, args.route = some r → args.request C = .http q → Sendable q.url →
    S.resolve q = some r
  crossChecked : ∀ r q, args.route = some r → args.request C = .http q → Sendable q.url →
    ∀ orderId, S.resolve q = some (.createRefund orderId) →
      (Upstream.http q).body "orderId" = some (.str orderId)
        ∧ ∀ body effective, (Upstream.http q).body "orderId" = some (.str body.orderId) →
          Orders.CreateRefundRequest.effective orderId q.idempotencyKey body = .ok effective →
          effective.orderId = body.orderId

/-- A text that is one segment of a path, wherever it is put there. -/
structure IsSegment (s : List Char) : Prop where
  whole : ∀ c ∈ ['/', '?', '#', ';', '%'], c ∉ s
  not_dot : ¬ IsDot s

/-- **An id that is read as what it is**, of characters the server takes. -/
structure Routable (S : Container) (order_id : String) : Prop where
  segment : IsSegment order_id.toList
  taken : ∀ c ∈ order_id.toList, pathSafe c → S.takes c

/-! ## Characters -/

theorem pathSafe_iff (c : Char) : pathSafe c ↔ 0x20 < c.toNat ∧ c.toNat < 0x7f
    ∧ c ∉ ['"', '#', '<', '>', '?', '`', '\x7b', '\x7d'] := by
  simp only [pathSafe, Bool.and_eq_true, decide_eq_true_eq, and_assoc]

theorem isAscii_of_pathSafe (c : Char) (h : pathSafe c) : isAscii c := by
  have := ((pathSafe_iff c).mp h).2.1
  exact decide_eq_true (by omega)

/-- The characters that mean something to either side. -/
def special : List Char := ['"', '#', '<', '>', '?', '`', '\x7b', '\x7d', '/', ';', '%', '.']

theorem not_mem_special {c : Char} (h : c.isAlphanum) : c ∉ special := by
  have hall : ∀ d ∈ special, ¬ d.isAlphanum := forall_of_all (by decide)
  exact fun hmem => hall c hmem h

theorem pathSafe_of_isAlphanum {c : Char} (h : c.isAlphanum) : pathSafe c := by
  have := toNat_of_isAlphanum h
  refine (pathSafe_iff c).mpr ⟨by omega, by omega, fun hmem => not_mem_special h ?_⟩
  exact List.mem_append_left ['/', ';', '%', '.'] hmem

theorem slash : Separates pathSafe '/' := ⟨by decide, by decide, by decide⟩

theorem semicolon : Separates pathSafe ';' := ⟨by decide, by decide, by decide⟩

/-- **A segment that is as it seems**: letters and digits. -/
def IsPlain (s : List Char) : Prop := ∀ c ∈ s, c.isAlphanum

theorem IsPlain.encode_eq {s : List Char} (h : IsPlain s) : encode pathSafe s = s :=
  encode_of_safe fun c hc => pathSafe_of_isAlphanum (h c hc)

theorem IsPlain.not_mem {s : List Char} (h : IsPlain s) {c : Char} (hc : c ∈ special) : c ∉ s :=
  fun hmem => not_mem_special (h c hmem) hc

theorem IsPlain.not_isDot {s : List Char} (h : IsPlain s) : ¬ IsDot s := by
  have hdot : '.' ∉ s := h.not_mem (by decide)
  rintro (rfl | rfl) <;> exact hdot (by decide)

theorem IsPlain.isSegment {s : List Char} (h : IsPlain s) : IsSegment s := by
  have hspecial : ∀ c ∈ ['/', '?', '#', ';', '%'], c ∈ special := forall_of_all (by decide)
  exact ⟨fun c hc => h.not_mem (hspecial c hc), h.not_isDot⟩

/-! ## The segments of an order's URL -/

/-- The URL of an order, and of what is under it. -/
def orderUrl (orderId : List Char) (rest : List (List Char)) : List Char :=
  "/orders/".toList ++ (orderId ++ rest.flatMap fun s => '/' :: s)

theorem toList_orders (orderId : String) :
    ("/orders/" ++ orderId).toList = orderUrl orderId.toList [] := by
  rw [String.toList_append]
  exact congrArg _ (List.append_nil _).symm

theorem toList_refunds (orderId : String) : ("/orders/" ++ orderId ++ "/refunds").toList
    = orderUrl orderId.toList ["refunds".toList] := by
  rw [String.toList_append, String.toList_append]
  exact List.append_assoc _ _ _

theorem splitOn_orderUrl (path : List Char) :
    ("/orders/".toList ++ path).splitOn '/' = [] :: "orders".toList :: path.splitOn '/' := by
  rw [show "/orders/".toList ++ path = [] ++ '/' :: ("orders".toList ++ '/' :: path) from rfl,
    List.splitOn_append_cons_self_of_not_mem List.not_mem_nil,
    List.splitOn_append_cons_self_of_not_mem (by decide)]

theorem splitOn_append_rest {rest : List (List Char)} (hrest : ∀ s ∈ rest, IsPlain s)
    (path : List Char) :
    (path ++ rest.flatMap fun s => '/' :: s).splitOn '/' = path.splitOn '/' ++ rest := by
  induction rest generalizing path with
  | nil => rw [List.flatMap_nil, List.append_nil, List.append_nil]
  | cons s rest ih =>
    have hs := hrest s List.mem_cons_self
    rw [List.flatMap_cons, List.cons_append, List.splitOn_append_cons_self,
      ih (fun t ht => hrest t (List.mem_cons_of_mem s ht)),
      List.splitOn_eq_singleton (hs.not_mem (by decide)), List.singleton_append]

theorem not_mem_rest {rest : List (List Char)} (hrest : ∀ s ∈ rest, IsPlain s) {c : Char}
    (hc : c ∈ ['?', '#']) : c ∉ rest.flatMap fun s => '/' :: s := by
  intro hmem
  obtain ⟨s, hs, hmem⟩ := List.mem_flatMap.mp hmem
  rcases List.mem_cons.mp hmem with rfl | hmem
  · exact absurd hc (by decide)
  · refine (hrest s hs).not_mem ?_ hmem
    rcases List.mem_pair.mp hc with rfl | rfl <;> decide

theorem pathOf_eq_self {s : List Char} (h : ∀ c ∈ ['?', '#'], c ∉ s) : pathOf s = s := by
  refine List.takeWhile_eq_self_iff.mpr fun c hc => ?_
  rw [Bool.and_eq_true, decide_eq_true_eq, decide_eq_true_eq]
  exact ⟨fun heq => h '?' (by decide) (heq ▸ hc), fun heq => h '#' (by decide) (heq ▸ hc)⟩

theorem not_mem_pathOf (s : List Char) : ∀ c ∈ ['?', '#'], c ∉ pathOf s := by
  intro c hc hmem
  have hok := List.mem_takeWhile_imp hmem
  rcases List.mem_pair.mp hc with rfl | rfl <;> exact absurd hok (by decide)

/-- **The path of an order's URL**: all of it, or what of it is in the id. -/
theorem pathOf_orderUrl {rest : List (List Char)} (hrest : ∀ s ∈ rest, IsPlain s)
    (orderId : List Char) : pathOf (orderUrl orderId rest) = orderUrl orderId rest
      ∨ pathOf (orderUrl orderId rest) = "/orders/".toList ++ pathOf orderId := by
  have hfront : pathOf (orderUrl orderId rest)
      = "/orders/".toList ++ pathOf (orderId ++ rest.flatMap fun s => '/' :: s) :=
    List.takeWhile_append_of_pos (List.all_eq_true.mp (by decide))
  by_cases hall : ∀ c ∈ ['?', '#'], c ∉ orderId
  · refine .inl (hfront.trans (congrArg _ (pathOf_eq_self fun c hc hmem => ?_)))
    exact (List.mem_append.mp hmem).elim (hall c hc) (not_mem_rest hrest hc)
  · refine .inr (hfront.trans (congrArg _ ?_))
    rw [pathOf, List.takeWhile_append, if_neg]
    · rfl
    · intro hlen
      have hself := (List.takeWhile_sublist _).eq_of_length hlen
      exact hall (hself ▸ not_mem_pathOf orderId)

/-- **Its segments**: plain ones, and those of the id. -/
theorem of_mem_splitOn_pathOf {rest : List (List Char)} (hrest : ∀ s ∈ rest, IsPlain s)
    {orderId s : List Char} (h : s ∈ (pathOf (orderUrl orderId rest)).splitOn '/') :
    IsPlain s ∨ s.Sublist orderId := by
  have hroot : IsPlain [] := List.forall_mem_nil _
  have horders : IsPlain "orders".toList := List.all_eq_true.mp (by decide)
  rcases pathOf_orderUrl hrest orderId with hpath | hpath
  · rw [hpath] at h
    unfold orderUrl at h
    rw [splitOn_orderUrl, splitOn_append_rest hrest] at h
    simp only [List.mem_cons, List.mem_append] at h
    rcases h with rfl | rfl | h | h
    · exact .inl hroot
    · exact .inl horders
    · exact .inr (of_mem_splitOn h).2
    · exact .inl (hrest s h)
  · rw [hpath, splitOn_orderUrl] at h
    simp only [List.mem_cons] at h
    rcases h with rfl | rfl | h
    · exact .inl hroot
    · exact .inl horders
    · exact .inr ((of_mem_splitOn h).2.trans (List.takeWhile_sublist _))

/-- **What is sent of a URL** is its path's segments, encoded. -/
theorem of_mem_splitOn_target {url : String} {s : List Char} (h : s ∈ (target url).splitOn '/') :
    s = [] ∨ ∃ p ∈ (pathOf url.toList).splitOn '/',
      ¬ IsDot (encode pathSafe p) ∧ s = encode pathSafe p := by
  simp only [target] at h
  split at h
  case isTrue =>
    rw [show ['/'].splitOn '/' = [[], []] from rfl] at h
    simp only [List.mem_cons, List.not_mem_nil, or_false, or_self] at h
    exact .inl h
  case isFalse hne =>
    have hsegments : removeDots ((encode pathSafe (pathOf url.toList)).splitOn '/') ≠ [] := by
      intro hnil
      rw [normalizePath, hnil] at hne
      exact hne rfl
    rw [normalizePath, List.splitOn_intercalate '/'
      (fun t ht => (of_mem_splitOn (of_mem_removeDots ht).1).1) hsegments] at h
    obtain ⟨hmem, hdot⟩ := of_mem_removeDots h
    rw [splitOn_encode slash] at hmem
    obtain ⟨p, hp, rfl⟩ := List.mem_map.mp hmem
    exact .inr ⟨p, hp, hdot, rfl⟩

theorem encode_orderUrl {rest : List (List Char)} (hrest : ∀ s ∈ rest, IsPlain s)
    (orderId : List Char) :
    encode pathSafe (orderUrl orderId rest) = orderUrl (encode pathSafe orderId) rest := by
  have hfront : encode pathSafe "/orders/".toList = "/orders/".toList :=
    encode_of_safe (List.all_eq_true.mp (by decide))
  have htail : encode pathSafe (rest.flatMap fun s => '/' :: s)
      = rest.flatMap fun s => '/' :: s := by
    refine encode_of_safe fun c hc => ?_
    obtain ⟨s, hs, hmem⟩ := List.mem_flatMap.mp hc
    rcases List.mem_cons.mp hmem with rfl | hmem
    · exact slash.safe
    · exact pathSafe_of_isAlphanum (hrest s hs c hmem)
  unfold orderUrl
  rw [encode_append, encode_append, hfront, htail]

/-- A segment is none that a path is relative by, encoded either. -/
theorem IsSegment.not_isDot_encode {s : List Char} (h : IsSegment s) :
    ¬ IsDot (encode pathSafe s) := by
  intro hdot
  have hpercent : '%' ∉ encode pathSafe s := by
    rcases hdot with h | h <;> rw [h] <;> decide
  have hself : encode pathSafe s = s := encode_eq_self hpercent
  exact h.not_dot (hself ▸ hdot)

theorem IsSegment.splitOn_encode {s : List Char} (h : IsSegment s) :
    (encode pathSafe s).splitOn '/' = [encode pathSafe s] := by
  rw [Url.splitOn_encode slash, List.splitOn_eq_singleton (h.whole '/' (by decide)),
    List.map_singleton]

/-- **The target of a segment's URL** is the URL, encoded. -/
theorem target_of_isSegment {rest : List (List Char)} (hrest : ∀ s ∈ rest, IsPlain s) {url : String}
    {orderId : List Char} (hurl : url.toList = orderUrl orderId rest) (h : IsSegment orderId) :
    target url = orderUrl (encode pathSafe orderId) rest := by
  have hpath : pathOf (orderUrl orderId rest) = orderUrl orderId rest := by
    refine pathOf_eq_self fun c hc hmem => ?_
    unfold orderUrl at hmem
    simp only [List.mem_append] at hmem
    rcases hmem with hmem | hmem | hmem
    · exact absurd hmem (by rcases List.mem_pair.mp hc with rfl | rfl <;> decide)
    · exact h.whole c (by rcases List.mem_pair.mp hc with rfl | rfl <;> decide) hmem
    · exact not_mem_rest hrest hc hmem
  have hdots : ∀ s ∈ (orderUrl (encode pathSafe orderId) rest).splitOn '/', ¬ IsDot s := by
    unfold orderUrl
    rw [splitOn_orderUrl, splitOn_append_rest hrest, h.splitOn_encode]
    simp only [List.mem_cons, List.cons_append, List.nil_append]
    rintro s (rfl | rfl | rfl | hs)
    · decide
    · decide
    · exact h.not_isDot_encode
    · exact (hrest s hs).not_isDot
  have hne : orderUrl (encode pathSafe orderId) rest ≠ [] := by
    unfold orderUrl
    exact List.append_ne_nil_of_left_ne_nil (by decide) _
  simp only [target, hurl, hpath, encode_orderUrl hrest, normalizePath_of_not_isDot hdots,
    if_neg hne]

/-! ## What is read -/

variable {S : Container}

/-- A segment's parameters go before it is decoded. -/
theorem segment_encode (p : List Char) : S.segment (encode pathSafe p)
    = S.utf8.uriDecode (encode pathSafe (p.takeWhile (· ≠ ';'))) := by
  rw [Container.segment, takeWhile_encode semicolon]

/-- **A segment is read as it was**, if it has neither parameters nor escapes. -/
theorem segment_encode_of_not_mem {p : List Char} (hsemicolon : ';' ∉ p) (hpercent : '%' ∉ p) :
    S.segment (encode pathSafe p) = some p := by
  have hwhole : p.takeWhile (· ≠ ';') = p :=
    List.takeWhile_eq_self_iff.mpr fun c hc => decide_eq_true fun heq => hsemicolon (heq ▸ hc)
  rw [segment_encode, hwhole, S.utf8.uriDecode_encode isAscii_of_pathSafe hpercent]

theorem IsPlain.segment_eq {p : List Char} (h : IsPlain p) : S.segment p = some p := by
  have hread : S.segment (encode pathSafe p) = some p :=
    segment_encode_of_not_mem (h.not_mem (by decide)) (h.not_mem (by decide))
  rwa [h.encode_eq] at hread

theorem mapM_segment_of_isPlain {rest : List (List Char)} (hrest : ∀ s ∈ rest, IsPlain s) :
    rest.mapM S.segment = some rest :=
  Machine.mapM_eq_some_iff.mpr (List.forall₂_same.mpr fun s hs => (hrest s hs).segment_eq)

theorem exists_of_mem_mapM {α β : Type} {f : α → Option β} {l : List α} {out : List β}
    (h : l.mapM f = some out) {b : β} (hb : b ∈ out) : ∃ a ∈ l, f a = some b := by
  have hread := Machine.mapM_eq_some_iff.mp h
  clear h
  induction hread with
  | nil => cases hb
  | @cons a _ l _ ha _ ih =>
    rcases List.mem_cons.mp hb with rfl | hb
    · exact ⟨a, List.mem_cons_self, ha⟩
    · obtain ⟨a', ha', hfa⟩ := ih hb
      exact ⟨a', List.mem_cons_of_mem a ha', hfa⟩

/-- **What is read as the id** of a URL's own is a segment. -/
theorem isSegment_of_read {rest : List (List Char)} (hrest : ∀ s ∈ rest, IsPlain s) {url : String}
    {orderId s : List Char} (hurl : url.toList = orderUrl orderId rest)
    (hs : s ∈ (target url).splitOn '/') (hread : S.segment s = some orderId) :
    IsSegment orderId := by
  rcases of_mem_splitOn_target hs with rfl | ⟨p, hp, hdot, rfl⟩
  · have hroot : IsPlain [] := List.forall_mem_nil _
    exact Option.some.inj (hroot.segment_eq.symm.trans hread) ▸ hroot.isSegment
  · rcases of_mem_splitOn_pathOf hrest (hurl ▸ hp) with hplain | hsub
    · rw [hplain.encode_eq, hplain.segment_eq] at hread
      exact Option.some.inj hread ▸ hplain.isSegment
    · rw [segment_encode] at hread
      obtain ⟨hfront, hpercent⟩ := S.utf8.eq_of_sublist isAscii_of_pathSafe (by decide) hread
        ((List.takeWhile_sublist _).trans hsub)
      have hsemicolon : ';' ∉ orderId := fun hmem =>
        absurd (List.mem_takeWhile_imp (hfront ▸ hmem)) (by decide)
      rw [← hfront] at hpercent
      -- nothing was cut off the segment, so it is the id
      obtain rfl : p = orderId := hsub.antisymm (hfront ▸ List.takeWhile_sublist _)
      obtain ⟨hslash, hpath⟩ := of_mem_splitOn hp
      refine ⟨fun c hc => ?_, fun h => hdot ?_⟩
      · simp only [List.mem_cons, List.not_mem_nil, or_false] at hc
        rcases hc with rfl | rfl | rfl | rfl | rfl
        · exact hslash
        · exact fun hmem => not_mem_pathOf _ '?' (by decide) (hpath.subset hmem)
        · exact fun hmem => not_mem_pathOf _ '#' (by decide) (hpath.subset hmem)
        · exact hsemicolon
        · exact hpercent
      · rcases h with rfl | rfl <;> decide

/-- The server takes a path of characters it takes. -/
theorem all_takes_iff {rest : List (List Char)} (hrest : ∀ s ∈ rest, IsPlain s)
    (orderId : List Char) : (orderUrl (encode pathSafe orderId) rest).all S.takes
      ↔ ∀ c ∈ orderId, pathSafe c → S.takes c := by
  have hfront : ∀ c ∈ "/orders/".toList, c.isAlphanum ∨ c = '/' ∨ c = '%' :=
    forall_of_all (by decide)
  rw [List.all_eq_true]
  unfold orderUrl
  constructor
  · intro h c hc hsafe
    exact h c (List.mem_append_right _ (List.mem_append_left _ (mem_encode_of_safe hc hsafe)))
  · intro h c hc
    simp only [List.mem_append] at hc
    rcases hc with hc | hc | hc
    · exact S.plain c (hfront c hc)
    · rcases mem_encode hc with ⟨hmem, hsafe⟩ | hpercent | halnum
      · exact h c hmem hsafe
      · exact S.plain c (.inr (.inr hpercent))
      · exact S.plain c (.inl halnum)
    · obtain ⟨s, hs, hmem⟩ := List.mem_flatMap.mp hc
      rcases List.mem_cons.mp hmem with hslash | hmem
      · exact S.plain c (.inr (.inl hslash))
      · exact S.plain c (.inl (hrest s hs c hmem))

/-- **The segments of a segment's URL**, as they are read. -/
theorem segments_of_isSegment {rest : List (List Char)} (hrest : ∀ s ∈ rest, IsPlain s)
    {orderId : List Char} (h : IsSegment orderId)
    (htakes : ∀ c ∈ orderId, pathSafe c → S.takes c) :
    S.segments (orderUrl (encode pathSafe orderId) rest)
      = some ([] :: "orders".toList :: orderId :: rest) := by
  have hroot : IsPlain [] := List.forall_mem_nil _
  have horders : IsPlain "orders".toList := List.all_eq_true.mp (by decide)
  rw [Container.segments, if_pos ((all_takes_iff hrest orderId).mpr htakes)]
  unfold orderUrl
  rw [splitOn_orderUrl, splitOn_append_rest hrest, h.splitOn_encode, List.mapM_cons,
    hroot.segment_eq, List.mapM_cons, horders.segment_eq, List.singleton_append, List.mapM_cons,
    segment_encode_of_not_mem (h.whole ';' (by decide)) (h.whole '%' (by decide)),
    mapM_segment_of_isPlain hrest]
  rfl

/-! ## Whole requests -/

theorem route_getOrder {orderId : String} (h : orderId.toList ≠ []) :
    route .get [[], "orders".toList, orderId.toList] = some (.getOrder orderId) :=
  (if_pos ⟨rfl, rfl, h⟩).trans (congrArg (some ∘ Route.getOrder) String.ofList_toList)

theorem route_createRefund {orderId : String} (h : orderId.toList ≠ []) :
    route .post [[], "orders".toList, orderId.toList, "refunds".toList]
      = some (.createRefund orderId) :=
  (if_pos ⟨rfl, rfl, h, rfl⟩).trans (congrArg (some ∘ Route.createRefund) String.ofList_toList)

/-- A route's variable is one of the segments. -/
theorem mem_of_route {method : Method} {segments : List (List Char)} {r : Route}
    (h : route method segments = some r) : r.orderId.toList ∈ segments := by
  unfold route at h
  split at h
  case h_4 => cases h
  all_goals
    obtain ⟨-, h⟩ := Option.ite_none_right_eq_some.mp h
    obtain rfl := Option.some.inj h
    simp [Route.orderId]

/-- **A request about an order**: its URL is the order's, or of what is under it, and `r` is the
route of that. -/
structure About (q : Request) (r : Route) (rest : List (List Char)) : Prop where
  plain : ∀ s ∈ rest, IsPlain s
  url : q.url.toList = orderUrl r.orderId.toList rest
  routed : route q.method ([] :: "orders".toList :: r.orderId.toList :: rest) = some r

theorem toList_ne_nil (s : Str 1 64) : s.1.toList ≠ [] := by
  intro h
  have hlen : 1 ≤ s.1.toList.length := String.length_toList ▸ s.2.1
  rw [h] at hlen
  exact absurd hlen (by decide)

theorem about_of_route {C : Context} {args : Args} {r : Route} {q : Request}
    (hr : args.route = some r) (hq : args.request C = .http q) : ∃ rest, About q r rest := by
  cases args with
  | getOrder args =>
    cases hr
    cases hq
    exact ⟨[], List.forall_mem_nil _, toList_orders _, route_getOrder (toList_ne_nil args.order_id)⟩
  | createRefund args =>
    cases hr
    cases hq
    refine ⟨["refunds".toList], ?_, toList_refunds _,
      route_createRefund (toList_ne_nil args.order_id)⟩
    intro s hs
    obtain rfl := List.mem_singleton.mp hs
    exact List.all_eq_true.mp (by decide)
  | chat args => cases hr
  | retrieveAndGenerate args => cases hr

/-- A call about an order has a request, and a route. -/
theorem route_of_orderId (C : Context) {args : Args} {order_id : Str 1 64}
    (h : args.orderId = some order_id) :
    ∃ r q, args.route = some r ∧ args.request C = .http q ∧ r.orderId = order_id.1 := by
  cases args with
  | getOrder args => cases h; exact ⟨_, _, rfl, rfl, rfl⟩
  | createRefund args => cases h; exact ⟨_, _, rfl, rfl, rfl⟩
  | chat args => cases h
  | retrieveAndGenerate args => cases h

theorem orderId_of_route {args : Args} {r : Route} (hr : args.route = some r) :
    ∃ order_id, args.orderId = some order_id ∧ order_id.1 = r.orderId := by
  cases args with
  | getOrder args => cases hr; exact ⟨_, rfl, rfl⟩
  | createRefund args => cases hr; exact ⟨_, rfl, rfl⟩
  | chat args => cases hr
  | retrieveAndGenerate args => cases hr

/-- **Every id of 1 to 64 characters is accepted**, whatever they are. -/
theorem getOrder_accepts (P : Pydantic) (order_id : Str 1 64) (tenant_id : TenantId) :
    Tool.getOrder.validate P [("order_id", .str order_id.1), ("tenant_id", .str tenant_id.1)]
      = .ok (.getOrder ⟨order_id, tenant_id⟩) :=
  Tool.validate_getOrder_eq_ok.mpr ⟨_, ⟨rfl, rfl, by simp⟩, rfl⟩

/-- The body of a refund's request names the order of its route. -/
theorem body_orderId {C : Context} {args : Args} {q : Request} {orderId : String}
    (hr : args.route = some (.createRefund orderId)) (hq : args.request C = .http q) :
    (Upstream.http q).body "orderId" = some (.str orderId) := by
  cases args <;> cases hr
  cases hq
  rfl

theorem sendable_iff {q : Request} {r : Route} {rest : List (List Char)} (h : About q r rest) :
    Sendable q.url ↔ Sendable r.orderId := by
  have hfront : ∀ c ∈ "/orders/".toList, 0x20 ≤ c.toNat ∧ c.toNat ≠ 0x7f :=
    forall_of_all (by decide)
  unfold Sendable
  rw [h.url]
  unfold orderUrl
  simp only [List.mem_append]
  constructor
  · exact fun hall c hc => hall c (.inr (.inl hc))
  · rintro hall c (hc | hc | hc)
    · exact hfront c hc
    · exact hall c hc
    · obtain ⟨s, hs, hmem⟩ := List.mem_flatMap.mp hc
      rcases List.mem_cons.mp hmem with rfl | hmem
      · decide
      · have := toNat_of_isAlphanum (h.plain s hs c hmem)
        omega

/-- **A request gets to its route** exactly when the id is routable. -/
theorem resolve_iff {q : Request} {r : Route} {rest : List (List Char)} (h : About q r rest) :
    S.resolve q = some r ↔ Routable S r.orderId := by
  constructor
  · intro hresolve
    obtain ⟨segments, hsegments, hroute⟩ := Option.bind_eq_some_iff.mp hresolve
    obtain ⟨htakes, hread⟩ := Option.ite_none_right_eq_some.mp hsegments
    obtain ⟨s, hs, hsegment⟩ := exists_of_mem_mapM hread (mem_of_route hroute)
    have hid := isSegment_of_read h.plain h.url hs hsegment
    rw [target_of_isSegment h.plain h.url hid, all_takes_iff h.plain] at htakes
    exact ⟨hid, htakes⟩
  · intro hid
    rw [Container.resolve, target_of_isSegment h.plain h.url hid.segment,
      segments_of_isSegment h.plain hid.segment hid.taken, Option.bind_some, h.routed]

/-- **The order acted on is the one that was validated** exactly when its id is routable, or the
client refuses to send it. -/
theorem acts_on_iff (S : Container) (C : Context) (args : Args) :
    ActsOn S C args ↔ ∀ order_id, args.orderId = some order_id → Sendable order_id.1 →
      Routable S order_id.1 := by
  constructor
  · intro h order_id hid hsend
    obtain ⟨r, q, hr, hq, heq⟩ := route_of_orderId C hid
    obtain ⟨rest, habout⟩ := about_of_route hr hq
    rw [← heq] at hsend ⊢
    exact (resolve_iff habout).mp (h.resolved r q hr hq ((sendable_iff habout).mpr hsend))
  · intro h
    have hresolved : ∀ r q, args.route = some r → args.request C = .http q → Sendable q.url →
        S.resolve q = some r := by
      intro r q hr hq hsend
      obtain ⟨rest, habout⟩ := about_of_route hr hq
      obtain ⟨order_id, hid, heq⟩ := orderId_of_route hr
      rw [sendable_iff habout, ← heq] at hsend
      exact (resolve_iff habout).mpr (heq ▸ h order_id hid hsend)
    refine ⟨hresolved, fun r q hr hq hsend orderId hrefund => ?_⟩
    obtain rfl : r = .createRefund orderId :=
      Option.some.inj ((hresolved r q hr hq hsend).symm.trans hrefund)
    have hbody := body_orderId hr hq
    refine ⟨hbody, fun body effective hnamed heffective => ?_⟩
    rw [hbody, Option.some.injEq, Json.str.injEq] at hnamed
    exact (Orders.CreateRefundRequest.orderId_of_effective heffective).trans hnamed

/-- A server that takes the characters of a path, and no others. -/
def rfc3986 : Container where
  takes c := c.isAlphanum || c ∈ "-._~!$&'()*+,;=:@/%".toList
  plain c h := by
    rcases h with h | rfl | rfl
    · rw [h, Bool.true_or]
    · decide
    · decide
  utf8 := Decoder.strict

/-- The id `x/../ord-synth-1`. -/
def climbing : Str 1 64 := ⟨"x/../ord-synth-1", by decide⟩

/-- The arguments of a refund of it. -/
def climbingRefund : CreateRefundArgs where
  order_id := climbing
  amount := ⟨⟨false, 1000, -2⟩, (payable_iff _).mpr ⟨1000, by norm_num, by norm_num, by
    norm_num [Decimal.value]⟩⟩
  reason := ⟨"duplicate", by decide⟩
  tenant_id := ⟨"tenant-a", by decide⟩
  idempotency_key := 0xc0ffee00000040008000000000000001

/-- **A refund of another order than the one that was validated.** -/
theorem other_order_refunded : ¬ ActsOn rfc3986 stdio (.createRefund climbingRefund) := by
  intro h
  have hsend : Sendable ("/orders/" ++ climbing.1 ++ "/refunds") :=
    forall_of_all (by decide)
  have hother : (rfc3986.segments (target ("/orders/" ++ climbing.1 ++ "/refunds"))).bind
      (route .post) = some (.createRefund "ord-synth-1") := by decide +kernel
  have hresolved := h.resolved _ _ rfl rfl hsend
  exact absurd (Option.some.inj (hother.symm.trans hresolved)) (by decide)

end Mcp
