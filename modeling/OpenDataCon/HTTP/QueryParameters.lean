import Mathlib.Data.Bool.AllAny
import Mathlib.Data.Finmap
import OpenDataCon.Foundations.Separators
import OpenDataCon.HTTP.RequestParser
import OpenDataCon.HTTP.UrlDecoding

/-!
# Query parameters

A request's address is decoded before its parameters are split at `&` and `=`, and a
parameter counts only when it splits into exactly two pieces. The handler therefore
gets the parameters that were sent exactly when no value is empty and neither of the
two delimiters occurs in a key or a value (`handleRequest_params_iff`).
-/

set_option autoImplicit false

namespace OpenDataCon.HTTP

open FileTransfer (Bytes ascii)
open Separators

/-! ## The request handler -/

/-- `ParameterMapType`. -/
abbrev ParameterMap : Type := Finmap fun _ : Bytes => Bytes

/-- A stock reply, or a call of a handler. -/
inductive Handled (H : Type) where
  | badRequest
  | called (fn : H) (absoluteuri : Bytes) (parameters : ParameterMap) (content : Bytes)

/-- `split`, which reads with `getline`. -/
abbrev split (text : Bytes) (delimiter : UInt8) : List Bytes := pieces delimiter text

/-- What a token of the query sets. -/
def setParam (p : ParameterMap) (token : Bytes) : ParameterMap :=
  match split token 0x3D with
  | [key, value] => p.insert key value
  | _ => p

def splitParams (paramstring : Bytes) : ParameterMap :=
  (split paramstring 0x26).foldl setParam ∅

section Handlers

variable {H : Type}

/-- The handler with the longest key that the text begins with; a key that is empty never
matches. -/
def findMatchingHandler (handlerMap : List (Bytes × H)) (uripattern : Bytes) : Option H :=
  (handlerMap.foldl (fun (best : Nat × Option H) entry =>
    if entry.1 <+: uripattern ∧ best.1 < entry.1.length then (entry.1.length, some entry.2)
    else best) (0, none)).2

def handleRequest (handlerMap : List (Bytes × H)) (req : Request) : Handled H :=
  match urlDecode req.uri with
  | none => .badRequest
  | some (requestPath, requestParams) =>
    if requestPath.head? ≠ some 0x2F ∨ ascii ".." <:+: requestPath then .badRequest
    else
      match findMatchingHandler handlerMap (req.method ++ [0x20] ++ requestPath) with
      | some fn =>
        .called fn (req.method ++ [0x20] ++ req.uri) (splitParams requestParams) req.content
      | none => .badRequest

end Handlers

/-! ## Splitting -/

/-- A parameter as it stands in the decoded query. -/
def rawParam (entry : Sigma fun _ : Bytes => Bytes) : Bytes := entry.1 ++ 0x3D :: entry.2

/-- The decoded query. -/
def rawQuery (entries : List (Sigma fun _ : Bytes => Bytes)) : Bytes :=
  [0x26].intercalate (entries.map rawParam)

/-- A key or value without the delimiters. -/
def Clean (text : Bytes) : Prop := 0x26 ∉ text ∧ 0x3D ∉ text

theorem setParam_rawParam (p : ParameterMap) {entry : Sigma fun _ : Bytes => Bytes}
    (key : Clean entry.1) (value : Clean entry.2) :
    setParam p (rawParam entry) = if entry.2 = [] then p else p.insert entry.1 entry.2 := by
  by_cases empty : entry.2 = []
  · rw [if_pos empty, setParam, rawParam, split, pieces_append key.2, empty]
    rfl
  · rw [if_neg empty, setParam, rawParam, split, pieces_append key.2,
      pieces_of_clean value.2 empty]

/-- **Parameters without delimiters are set**, those with an empty value left out. -/
theorem splitParams_rawQuery {entries : List (Sigma fun _ : Bytes => Bytes)}
    (clean : ∀ entry ∈ entries, Clean entry.1 ∧ Clean entry.2) :
    splitParams (rawQuery entries) = entries.foldl
      (fun p entry => if entry.2 = [] then p else p.insert entry.1 entry.2) ∅ := by
  have no_amp : ∀ token ∈ entries.map rawParam, (0x26 : UInt8) ∉ token := by
    intro token member inside
    obtain ⟨entry, among, rfl⟩ := List.mem_map.mp member
    rcases List.mem_append.mp inside with inKey | inValue
    · exact (clean entry among).1.1 inKey
    · rcases List.mem_cons.mp inValue with equals | inValue
      · exact absurd equals (by decide)
      · exact (clean entry among).2.1 inValue
  have some_token : ∀ token ∈ (entries.map rawParam).getLast?, token ≠ [] := by
    intro token last
    obtain ⟨entry, -, rfl⟩ := List.mem_map.mp (List.mem_of_getLast? last)
    exact List.append_ne_nil_of_right_ne_nil _ (List.cons_ne_nil _ _)
  rw [splitParams, rawQuery, split, pieces_intercalate no_amp some_token, List.foldl_map]
  refine List.foldl_ext _ _ _ ?_
  intro p entry member
  exact setParam_rawParam p (clean entry member).1 (clean entry member).2

/-- A map without delimiters in its keys and values. -/
def CleanMap (p : ParameterMap) : Prop :=
  ∀ key value, p.lookup key = some value → Clean key ∧ Clean value

theorem CleanMap.setParam {p : ParameterMap} (before : CleanMap p) {token : Bytes}
    (no_amp : 0x26 ∉ token) : CleanMap (setParam p token) := by
  have of_piece : ∀ piece ∈ split token 0x3D, Clean piece := by
    intro piece member
    exact ⟨fun inside => no_amp (of_mem_pieces member _ inside).1,
      fun inside => (of_mem_pieces member _ inside).2 rfl⟩
  intro key value set
  rw [HTTP.setParam] at set
  split at set
  · next first second read =>
      rw [read] at of_piece
      by_cases same : key = first
      · subst same
        rw [Finmap.lookup_insert] at set
        cases set
        exact ⟨of_piece _ List.mem_cons_self,
          of_piece _ (List.mem_cons_of_mem _ List.mem_cons_self)⟩
      · rw [Finmap.lookup_insert_of_ne _ same] at set
        exact before key value set
  · exact before key value set

/-- **Nothing that is split off has a delimiter in it.** -/
theorem splitParams_clean (paramstring : Bytes) : CleanMap (splitParams paramstring) := by
  have no_amp : ∀ token ∈ split paramstring 0x26, (0x26 : UInt8) ∉ token := by
    intro token member inside
    exact (of_mem_pieces member _ inside).2 rfl
  have run : ∀ (tokens : List Bytes) (p : ParameterMap),
      (∀ token ∈ tokens, (0x26 : UInt8) ∉ token) → CleanMap p →
      CleanMap (tokens.foldl setParam p) := by
    intro tokens
    induction tokens with
    | nil => exact fun p _ before => before
    | cons token tokens ih =>
        intro p no_amp before
        exact ih _ (fun token later => no_amp token (List.mem_cons_of_mem _ later))
          (before.setParam (no_amp token List.mem_cons_self))
  refine run _ _ no_amp ?_
  intro key value set
  cases set

/-- What is set for parameters with keys of their own. -/
theorem lookup_foldl_insert {entries : List (Sigma fun _ : Bytes => Bytes)}
    (nodup : entries.NodupKeys) (key value : Bytes) :
    (entries.foldl (fun (p : ParameterMap) entry =>
      if entry.2 = [] then p else p.insert entry.1 entry.2) ∅).lookup key = some value ↔
      ⟨key, value⟩ ∈ entries ∧ value ≠ [] := by
  induction entries using List.reverseRecOn with
  | nil => simp
  | append_singleton entries entry ih =>
      obtain ⟨own, set⟩ := entry
      rw [List.NodupKeys, List.keys, List.map_append, List.nodup_append] at nodup
      obtain ⟨before, -, apart⟩ := nodup
      have ih := ih before
      have new : ∀ value, ⟨own, value⟩ ∉ entries := by
        intro value member
        exact apart own (List.mem_map_of_mem member) own List.mem_cons_self rfl
      rw [List.foldl_append, List.foldl_cons, List.foldl_nil, List.mem_append, List.mem_singleton]
      by_cases same : key = own
      · subst same
        rw [or_iff_right (new value), Sigma.mk.injEq, heq_iff_eq, and_iff_right rfl]
        by_cases empty : set = []
        · rw [if_pos empty, ih]
          constructor
          · rintro ⟨member, -⟩
            exact absurd member (new value)
          · rintro ⟨rfl, some_value⟩
            exact absurd empty some_value
        · rw [if_neg empty, Finmap.lookup_insert, Option.some_inj]
          constructor
          · rintro rfl
            exact ⟨rfl, empty⟩
          · rintro ⟨rfl, -⟩
            rfl
      · have other : ¬(⟨key, value⟩ : Sigma fun _ : Bytes => Bytes) = ⟨own, set⟩ :=
          fun equal => same (congrArg Sigma.fst equal)
        rw [or_iff_left other, ← ih]
        split
        · rfl
        · rw [Finmap.lookup_insert_of_ne _ same]

/-! ## Requests with parameters -/

/-- A query text: every key and value percent-encoded, joined with `=` and `&`. -/
def WrittenQuery (entries : List (Sigma fun _ : Bytes => Bytes)) (query : Bytes) : Prop :=
  ∃ parts : List (Bytes × Bytes),
    List.Forall₂ (fun entry part => Encoded part.1 entry.1 ∧ Encoded part.2 entry.2)
      entries parts ∧
    query = [0x26].intercalate (parts.map fun part => part.1 ++ 0x3D :: part.2)

/-- A written parameter is decoded, and what follows it is read. -/
theorem read_writtenParam {entry : Sigma fun _ : Bytes => Bytes} {key value : Bytes}
    (keyEncoded : Encoded key entry.1) (valueEncoded : Encoded value entry.2)
    (decoding : Decoding) (rest : Bytes) :
    decoding.read (key ++ 0x3D :: value ++ rest) = (decoding.put (rawParam entry)).read rest := by
  rw [List.append_assoc, read_encoded keyEncoded, List.cons_append,
    read_literal _ (by decide) (by decide) (fun mark => absurd mark.1 (by decide)),
    read_encoded valueEncoded, put_put, put_put, rawParam]
  rfl

/-- **A written query is decoded as a whole.** -/
theorem read_writtenQuery {entries : List (Sigma fun _ : Bytes => Bytes)} {query : Bytes}
    (written : WrittenQuery entries query) (decoding : Decoding) :
    decoding.read query = some (decoding.put (rawQuery entries)) := by
  obtain ⟨parts, corresponding, rfl⟩ := written
  induction corresponding generalizing decoding with
  | nil =>
      rw [rawQuery, List.map_nil, List.map_nil, List.intercalate_nil, put_nil, Decoding.read]
  | @cons entry part entries parts encoded later ih =>
      have first := read_writtenParam encoded.1 encoded.2
      cases later with
      | nil =>
          have alone := first decoding []
          rw [List.append_nil, Decoding.read] at alone
          rwa [rawQuery, List.map_singleton, List.map_singleton, List.intercalate_singleton,
            List.intercalate_singleton]
      | @cons second part' entries parts encoded' later =>
          rw [rawQuery, List.map_cons, List.map_cons, List.map_cons, List.map_cons,
            List.intercalate_cons_cons, List.intercalate_cons_cons, List.append_assoc, first,
            List.singleton_append,
            read_literal _ (by decide) (by decide) (fun mark => absurd mark.1 (by decide))]
          have rest := ih ((decoding.put (rawParam entry)).put [0x26])
          rw [put_put, put_put] at rest
          rw [put_put]
          exact rest

/-- A path that a handler is registered for. -/
structure ValidPath {H : Type} (handlerMap : List (Bytes × H)) (method path : Bytes) (fn : H) :
    Prop where
  alone : 0x3F ∉ path
  valid : ∃ decoded, urlDecode path = some (decoded, []) ∧ decoded.head? = some 0x2F ∧
    ¬ascii ".." <:+: decoded ∧
    findMatchingHandler handlerMap (method ++ [0x20] ++ decoded) = some fn

section Requests

variable {H : Type} {handlerMap : List (Bytes × H)} {req : Request} {path query : Bytes} {fn : H}

/-- **A written query reaches the splitter without its encoding.** -/
theorem handleRequest_written (valid : ValidPath handlerMap req.method path fn)
    {entries : List (Sigma fun _ : Bytes => Bytes)} (written : WrittenQuery entries query)
    (uri : req.uri = path ++ 0x3F :: query) :
    handleRequest handlerMap req =
      .called fn (req.method ++ [0x20] ++ req.uri) (splitParams (rawQuery entries))
        req.content := by
  obtain ⟨alone, decoded, decodes, absolute, no_dots, found⟩ := valid
  cases reads : Decoding.read {} path with
  | none =>
      rw [urlDecode, reads] at decodes
      cases decodes
  | some reached =>
      have path_only : reached.inquery = false := read_inquery alone reads
      obtain ⟨inquery, out, params⟩ := reached
      rw [urlDecode, reads, Option.map_some, Option.some_inj, Prod.mk.injEq] at decodes
      obtain ⟨rfl, rfl⟩ := decodes
      have whole : urlDecode (path ++ 0x3F :: query) = some (out, rawQuery entries) := by
        rw [urlDecode, read_append path _ {} _ reads, read_query path_only,
          read_writtenQuery written]
        rfl
      rw [handleRequest, uri, whole]
      simp only [absolute, no_dots, found, ne_eq, not_true_eq_false, or_self, if_false]

/-- **The handler gets the parameters that were sent exactly when no value is empty and no key
or value has a delimiter in it.** -/
theorem handleRequest_params_iff (valid : ValidPath handlerMap req.method path fn)
    {params : AList fun _ : Bytes => Bytes} (written : WrittenQuery params.entries query)
    (uri : req.uri = path ++ 0x3F :: query) :
    handleRequest handlerMap req =
        .called fn (req.method ++ [0x20] ++ req.uri) params.toFinmap req.content ↔
      ∀ entry ∈ params.entries, entry.2 ≠ [] ∧ Clean entry.1 ∧ Clean entry.2 := by
  rw [handleRequest_written valid written uri, Handled.called.injEq]
  simp only [true_and, and_true]
  have member : ∀ key value, params.toFinmap.lookup key = some value ↔
      ⟨key, value⟩ ∈ params.entries := by
    intro key value
    rw [Finmap.lookup_toFinmap]
    exact AList.mem_lookup_iff
  constructor
  · intro same
    have clean : ∀ entry ∈ params.entries, Clean entry.1 ∧ Clean entry.2 := by
      intro entry inside
      have sent := (member entry.1 entry.2).mpr inside
      rw [← same] at sent
      exact splitParams_clean _ _ _ sent
    intro entry inside
    have sent := (member entry.1 entry.2).mpr inside
    rw [← same, splitParams_rawQuery clean, lookup_foldl_insert params.nodupKeys] at sent
    exact ⟨sent.2, clean entry inside⟩
  · intro readable
    rw [splitParams_rawQuery fun entry inside => (readable entry inside).2]
    apply Finmap.ext_lookup
    intro key
    apply Option.ext
    intro value
    rw [member, lookup_foldl_insert params.nodupKeys, and_iff_left_iff_imp]
    intro inside
    exact (readable _ inside).1

end Requests

/-! ## Two requests -/

/-- A handler for `GET /status`. -/
def statusHandlers : List (Bytes × Unit) := [(ascii "GET /status", ())]

theorem validPath_status : ValidPath statusHandlers (ascii "GET") (ascii "/status") () :=
  ⟨by decide, ascii "/status",
    urlDecode_encoded (encoded_self (List.all_iff_forall_prop.mp (by decide))), by decide,
    by decide, by decide⟩

theorem writtenQuery_singleton (key value : Bytes) :
    WrittenQuery [⟨key, value⟩] (percentEncode key ++ 0x3D :: percentEncode value) :=
  ⟨[(percentEncode key, percentEncode value)],
    .cons ⟨encoded_percentEncode key, encoded_percentEncode value⟩ .nil,
    by rw [List.map_singleton, List.intercalate_singleton]⟩

/-- A request with one parameter. -/
def statusRequest (key value : Bytes) : Request :=
  { method := ascii "GET"
    uri := ascii "/status" ++ 0x3F :: (percentEncode key ++ 0x3D :: percentEncode value) }

theorem handleRequest_params_index :
    handleRequest statusHandlers (statusRequest (ascii "index") (ascii "3")) =
      .called () (ascii "GET" ++ [0x20] ++ (statusRequest (ascii "index") (ascii "3")).uri)
        (AList.singleton (ascii "index") (ascii "3")).toFinmap [] :=
  (handleRequest_params_iff validPath_status (writtenQuery_singleton _ _) rfl).mpr (by
    intro entry inside
    rw [AList.singleton_entries, List.mem_singleton] at inside
    subst inside
    exact ⟨by decide, ⟨by decide, by decide⟩, by decide, by decide⟩)

/-- An empty value is lost, and so is a value with a delimiter. -/
theorem handleRequest_params_lost :
    handleRequest statusHandlers (statusRequest (ascii "index") []) ≠
        .called () (ascii "GET" ++ [0x20] ++ (statusRequest (ascii "index") []).uri)
          (AList.singleton (ascii "index") []).toFinmap [] ∧
      handleRequest statusHandlers (statusRequest (ascii "index") (ascii "a=b")) ≠
        .called () (ascii "GET" ++ [0x20] ++ (statusRequest (ascii "index") (ascii "a=b")).uri)
          (AList.singleton (ascii "index") (ascii "a=b")).toFinmap [] := by
  have lost : ∀ value, (splitParams (rawQuery [⟨ascii "index", value⟩])).lookup (ascii "index") =
      none → handleRequest statusHandlers (statusRequest (ascii "index") value) ≠
        .called () (ascii "GET" ++ [0x20] ++ (statusRequest (ascii "index") value).uri)
          (AList.singleton (ascii "index") value).toFinmap [] := by
    intro value missing
    have called : handleRequest statusHandlers (statusRequest (ascii "index") value) = _ :=
      handleRequest_written validPath_status (writtenQuery_singleton (ascii "index") value) rfl
    rw [called]
    intro same
    rw [Handled.called.injEq] at same
    rw [same.2.2.1, Finmap.lookup_toFinmap] at missing
    cases missing
  exact ⟨lost [] (by decide), lost (ascii "a=b") (by decide)⟩

end OpenDataCon.HTTP
