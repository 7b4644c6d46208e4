import Mathlib.Data.Bool.AllAny
import Mathlib.Data.List.TakeWhile
import PromptStudio.Proofs.Json.Encodable
import PromptStudio.Proofs.Ownership.Basic
import PromptStudio.Proofs.Text.Percent

/-!
# The two addresses of a dataset

The images of a dataset are stored under a key that holds the user and the dataset. The address to upload them to has
the key percent-encoded, so whoever reads it finds the key, whatever the user is called. The address to read them from
has the key as it is: it names the key exactly if nothing in the name of the user ends a path or is an escape. Keys of
two datasets differ, since the id of a dataset has no slash and is the last but one step of its key.
-/

namespace PromptStudio

/-! ### What an address names -/

namespace Upload

/-- A character that does not end the path of an address. -/
def isPathChar (c : Char) : Bool :=
  c != '?' && c != '#'

/-- What an address names: its path, up to a query or a fragment, with the escapes read. -/
def named? (address : Text) : Option Bytes :=
  address.toChars?.map fun cs => Percent.bytes (cs.takeWhile isPathChar)

/-- Whether an address names a key behind a fixed front. -/
def NamesBehind (front key address : Text) : Prop :=
  ∃ path name, named? front = some path ∧ Utf8.encode? key = some name ∧ named? address = some (path ++ name)

def StandsInPath (t : Text) : Prop :=
  ∃ cs, t.toChars? = some cs ∧ (∀ c ∈ cs, isPathChar c = true) ∧ ¬ Percent.Escapes cs

theorem standsInPath_ofString {s : String} :
    StandsInPath s ↔ (∀ c ∈ s.toList, isPathChar c = true) ∧ ¬ Percent.Escapes s.toList := by
  rw [StandsInPath, Text.ofString, Text.toChars?_map_char]
  simp only [Option.some.injEq, exists_eq_left']

theorem named?_map_char (cs : List Char) :
    named? (cs.map .char) = some (Percent.bytes (cs.takeWhile isPathChar)) := by
  rw [named?, Text.toChars?_map_char]
  rfl

theorem namesBehind_map_char_iff {front address : List Char} (hfront : ∀ c ∈ front, isPathChar c = true) {key : Text}
    {name : Bytes} (hkey : Utf8.encode? key = some name) :
    NamesBehind (front.map .char) key (address.map .char) ↔
      Percent.bytes (address.takeWhile isPathChar) = Percent.bytes front ++ name := by
  rw [NamesBehind, named?_map_char, named?_map_char, List.takeWhile_eq_self_iff.mpr hfront, hkey]
  simp only [Option.some.injEq]
  constructor
  · rintro ⟨_, _, rfl, rfl, heq⟩
    exact heq
  · exact fun heq => ⟨_, _, rfl, rfl, heq⟩

theorem bytes_behind_slash (front rest : List Char) :
    Percent.bytes (front ++ '/' :: rest) = Percent.bytes (front ++ ['/']) ++ Percent.bytes rest := by
  have hslash : ('/' : Char) ≠ '%' := by decide
  rw [Percent.bytes_append_slash, Percent.bytes_append_slash, Percent.bytes_cons_of_ne hslash,
    Percent.bytes_cons_of_ne hslash, List.append_assoc, List.append_assoc]
  rfl

theorem bytes_of_no_percent {cs : List Char} (h : '%' ∉ cs) : Percent.bytes cs = Utf8.ofChars cs := by
  refine Percent.bytes_eq_ofChars_iff.mpr ?_
  rintro ⟨a, b, hmiddle, -, -⟩
  exact h (hmiddle.subset List.mem_cons_self)

theorem ofChars_append (cs ds : List Char) : Utf8.ofChars (cs ++ ds) = Utf8.ofChars cs ++ Utf8.ofChars ds :=
  List.flatMap_append

/-- A step that was not encoded is read as it stands exactly if it does not end the path and holds no escape. -/
theorem bytes_step_iff {front step tail : List Char} (hfront : ∀ c ∈ front, isPathChar c = true)
    (htail : ∀ c ∈ tail, isPathChar c = true ∧ c ≠ '%') :
    Percent.bytes ((front ++ '/' :: (step ++ '/' :: tail)).takeWhile isPathChar) =
        Percent.bytes (front ++ ['/']) ++ Utf8.ofChars (step ++ '/' :: tail) ↔
      (∀ c ∈ step, isPathChar c = true) ∧ ¬ Percent.Escapes step := by
  have hnoPercent : '%' ∉ '/' :: tail := by
    rw [List.mem_cons, not_or]
    exact ⟨by decide, fun hmem => (htail '%' hmem).2 rfl⟩
  rw [List.takeWhile_append_of_pos hfront, List.takeWhile_cons_of_pos (by decide), bytes_behind_slash,
    List.append_cancel_left_eq]
  by_cases hstep : ∀ c ∈ step, isPathChar c = true
  · have hpath : ∀ c ∈ '/' :: tail, isPathChar c = true := by
      rw [List.forall_mem_cons]
      exact ⟨by decide, fun c hc => (htail c hc).1⟩
    rw [List.takeWhile_append_of_pos hstep, List.takeWhile_eq_self_iff.mpr hpath, Percent.bytes_append_slash,
      bytes_of_no_percent hnoPercent, ofChars_append, List.append_cancel_right_eq, Percent.bytes_eq_ofChars_iff]
    exact (and_iff_right hstep).symm
  · -- What is read ends within the step, and reading adds no bytes.
    refine iff_of_false ?_ (fun h => hstep h.1)
    have hcut : (step ++ '/' :: tail).takeWhile isPathChar = step.takeWhile isPathChar := by
      rw [List.takeWhile_append, if_neg]
      intro hlength
      exact hstep (List.takeWhile_eq_self_iff.mp (List.takeWhile_prefix _ |>.eq_of_length hlength))
    intro heq
    have hle := (Percent.readsShorter (step.takeWhile isPathChar)).length_le
    have hparts := congrArg Utf8.ofChars (List.takeWhile_append_dropWhile (p := isPathChar) (l := step))
    rw [hcut] at heq
    rw [heq, ofChars_append, ← hparts, ofChars_append, List.length_append, List.length_append] at hle
    have hslash : 0 < (Utf8.ofChars ('/' :: tail)).length := by
      rw [Utf8.ofChars, List.flatMap_cons, List.length_append]
      exact Nat.add_pos_left (Percent.length_ofChar_pos '/') _
    omega

/-! ### The addresses of a key -/

theorem exists_root {base : String} (hbase : ∀ c ∈ base.toList, isPathChar c = true) :
    ∃ root : List Char, withoutTrailingSlashes base = root.map .char ∧ ∀ c ∈ root, isPathChar c = true := by
  have hslash : (fun c => CodePoint.char c == CodePoint.char '/') = fun c => c == '/' := by
    funext c
    rw [Bool.eq_iff_iff, beq_iff_eq, beq_iff_eq, CodePoint.char.injEq]
  refine ⟨(base.toList.reverse.dropWhile (· == '/')).reverse, ?_, ?_⟩
  · rw [withoutTrailingSlashes, Text.ofString, Blank.dropTail, ← List.map_reverse, List.dropWhile_map, List.map_reverse]
    exact congrArg (fun p => ((base.toList.reverse.dropWhile p).map CodePoint.char).reverse) hslash
  · intro c hc
    rw [List.mem_reverse] at hc
    exact hbase c (List.mem_reverse.mp ((List.dropWhile_sublist _).subset hc))

theorem isPathChar_of_mem_encode {bytes : Bytes} {c : Char} (hc : c ∈ Percent.encode Percent.isUnreserved bytes) :
    isPathChar c = true := by
  rw [isPathChar, Bool.and_eq_true, bne_iff_ne, bne_iff_ne]
  constructor
  · rintro rfl
    exact Percent.not_mem_encode (by decide) (by decide) (by decide) bytes hc
  · rintro rfl
    exact Percent.not_mem_encode (by decide) (by decide) (by decide) bytes hc

theorem ofKey_eq_ok {base key : Text} {draw : Nat} {root lifetime : List Char} {upload : Upload}
    (hroot : withoutTrailingSlashes base = root.map .char)
    (h : ofKey base key draw (lifetime.map .char) = .ok upload) :
    ∃ name query, Utf8.encode? key = some name ∧
      upload.uploadUrl = (root ++ "/api/upload/".toList ++ Percent.encode Percent.isUnreserved name ++ '?' :: query).map
        .char ∧
      upload.publicUrl = (root ++ "/uploads/".toList).map .char ++ key := by
  rw [ofKey, hroot] at h
  split at h
  · cases h
  · rename_i name hname
    cases h
    refine ⟨name, "token=".toList ++ (Hex.padded 32 draw).toList ++ "&expires=".toList ++ lifetime, hname, ?_, ?_⟩
    · have hquery : "?token=".toList = '?' :: "token=".toList := by decide
      simp only [Text.ofString, hquery, List.map_append, List.map_cons, List.append_assoc, List.cons_append]
    · rw [List.map_append]
      rfl

theorem uploadUrl_namesBehind {root query : List Char} (hroot : ∀ c ∈ root, isPathChar c = true) {key : Text}
    {name : Bytes} (hname : Utf8.encode? key = some name) :
    NamesBehind ((root ++ "/api/upload/".toList).map .char) key
      ((root ++ "/api/upload/".toList ++ Percent.encode Percent.isUnreserved name ++ '?' :: query).map .char) := by
  have hfront : ∀ c ∈ root ++ "/api/upload/".toList, isPathChar c = true :=
    List.forall_mem_append.mpr ⟨hroot, List.all_iff_forall_prop.mp (by decide)⟩
  have hstep : ∀ c ∈ Percent.encode Percent.isUnreserved name, isPathChar c = true :=
    fun c hc => isPathChar_of_mem_encode hc
  have hslash : "/api/upload/".toList = "/api/upload".toList ++ ['/'] := by decide
  have hread := Percent.bytes_encode_append name []
  rw [List.append_nil, Percent.bytes, List.append_nil] at hread
  rw [namesBehind_map_char_iff hfront hname, List.takeWhile_append_of_pos (List.forall_mem_append.mpr ⟨hfront, hstep⟩),
    List.takeWhile_cons_of_neg (by decide), List.append_nil, hslash, ← List.append_assoc, List.append_assoc,
    List.singleton_append, bytes_behind_slash, hread]

/-- The public address names a key with three steps exactly if the step in the middle stands in a path as it is. -/
theorem publicUrl_namesBehind_iff {root head step tail : List Char} (hroot : ∀ c ∈ root, isPathChar c = true)
    (hhead : ∀ c ∈ head, isPathChar c = true ∧ c ≠ '%') (htail : ∀ c ∈ tail, isPathChar c = true ∧ c ≠ '%') :
    NamesBehind ((root ++ "/uploads/".toList).map .char) ((head ++ '/' :: (step ++ '/' :: tail)).map .char)
        ((root ++ "/uploads/".toList ++ (head ++ '/' :: (step ++ '/' :: tail))).map .char) ↔
      (∀ c ∈ step, isPathChar c = true) ∧ ¬ Percent.Escapes step := by
  have hfront : ∀ c ∈ root ++ "/uploads/".toList, isPathChar c = true :=
    List.forall_mem_append.mpr ⟨hroot, List.all_iff_forall_prop.mp (by decide)⟩
  have hkey : Utf8.encode? ((head ++ '/' :: (step ++ '/' :: tail)).map .char) =
      some (Utf8.ofChars (head ++ '/' :: (step ++ '/' :: tail))) := by
    rw [Utf8.encode?, Text.toChars?_map_char]
    rfl
  have hlong : ∀ c ∈ root ++ "/uploads/".toList ++ head, isPathChar c = true :=
    List.forall_mem_append.mpr ⟨hfront, fun c hc => (hhead c hc).1⟩
  have hslash : "/uploads/".toList = "/uploads".toList ++ ['/'] := by decide
  have hread : Percent.bytes (root ++ "/uploads/".toList ++ head ++ ['/']) =
      Percent.bytes (root ++ "/uploads/".toList) ++ Utf8.ofChars (head ++ ['/']) := by
    have hnoPercent : '%' ∉ head ++ ['/'] := by
      rw [List.mem_append, not_or]
      exact ⟨fun hmem => (hhead '%' hmem).2 rfl, by decide⟩
    rw [hslash, ← List.append_assoc, List.append_assoc, List.append_assoc, List.singleton_append, bytes_behind_slash,
      bytes_of_no_percent hnoPercent]
  have hwhole : Percent.bytes (root ++ "/uploads/".toList) ++ Utf8.ofChars (head ++ '/' :: (step ++ '/' :: tail)) =
      Percent.bytes (root ++ "/uploads/".toList ++ head ++ ['/']) ++ Utf8.ofChars (step ++ '/' :: tail) := by
    rw [hread, List.append_assoc, ← ofChars_append, List.append_assoc, List.singleton_append]
  rw [namesBehind_map_char_iff hfront hkey, hwhole, ← List.append_assoc]
  exact bytes_step_iff hlong htail

end Upload

/-! ### The key of a dataset -/

namespace Studio

open Upload

def idChars (table : String) (number : Nat) : List Char :=
  table.toList ++ '-' :: number.repr.toList

theorem rowId_eq_map (table : String) (number : Nat) : rowId table number = (idChars table number).map .char := by
  have hdash : Text.ofString "-" = [.char '-'] := by decide
  rw [idChars, List.map_append, List.map_cons, rowId, hdash, List.append_assoc]
  rfl

theorem of_mem_idChars {number : Nat} {c : Char} (hc : c ∈ idChars "dataset" number) :
    isPathChar c = true ∧ c ≠ '%' ∧ c ≠ '/' := by
  rw [idChars, List.mem_append, List.mem_cons] at hc
  rcases hc with htable | rfl | hdigit
  · have hall : ∀ c ∈ "dataset".toList, isPathChar c = true ∧ c ≠ '%' ∧ c ≠ '/' :=
      List.all_iff_forall_prop.mp (by decide)
    exact hall c htable
  · decide
  · rw [Nat.toList_repr] at hdigit
    have hisDigit := Nat.isDigit_of_mem_toDigits (by decide) (by decide) hdigit
    rw [isPathChar, Bool.and_eq_true, bne_iff_ne, bne_iff_ne]
    refine ⟨⟨?_, ?_⟩, ?_, ?_⟩ <;>
    · rintro rfl
      exact absurd hisDigit (by decide)

theorem datasetKey_eq (step : List Char) (number : Nat) :
    datasetKey (step.map .char) (rowId "dataset" number) =
      ("datasets".toList ++ '/' :: (step ++ '/' :: (idChars "dataset" number ++ "/images.zip".toList))).map .char := by
  have hhead : "datasets/".toList = "datasets".toList ++ ['/'] := by decide
  have hslash : "/".toList = ['/'] := by decide
  rw [datasetKey, rowId_eq_map]
  simp only [Text.ofString, hhead, hslash, List.map_append, List.map_cons, List.map_nil, List.append_assoc,
    List.cons_append, List.nil_append]

theorem number_of_datasetKey {u v : Text} {m n : Nat}
    (h : datasetKey u (rowId "dataset" m) = datasetKey v (rowId "dataset" n)) : m = n := by
  have hnoSlash (number : Nat) : ∀ p ∈ (rowId "dataset" number).reverse, (p != .char '/') = true := by
    intro p hp
    rw [List.mem_reverse, rowId_eq_map, List.mem_map] at hp
    obtain ⟨c, hc, rfl⟩ := hp
    rw [bne_iff_ne, ne_eq, CodePoint.char.injEq]
    exact (of_mem_idChars hc).2.2
  have hlast (t : Text) (number : Nat) :
      ((t ++ "/" ++ rowId "dataset" number : Text).reverse.takeWhile (· != .char '/')).reverse
        = rowId "dataset" number := by
    have hslash : (Text.ofString "/").reverse = [.char '/'] := by decide
    rw [List.reverse_append, List.reverse_append, hslash, List.takeWhile_append_of_pos (hnoSlash number),
      List.singleton_append, List.takeWhile_cons_of_neg (by decide), List.append_nil, List.reverse_reverse]
  rw [datasetKey, datasetKey, List.append_cancel_right_eq] at h
  have hids := hlast ("datasets/" ++ u) m
  rw [h, hlast] at hids
  exact rowId_injective "dataset" hids.symm

theorem nodup_datasetKeys {datasets : List Dataset} {count : Nat}
    (h : Numbered "dataset" count (datasets.map (·.id))) :
    (datasets.map fun d => datasetKey d.userId d.id).Nodup := by
  refine List.Nodup.map_on ?_ h.distinct.of_map
  intro d hd d' hd' hkey
  obtain ⟨m, -, hm⟩ := h.counted d.id (List.mem_map_of_mem hd)
  obtain ⟨n, -, hn⟩ := h.counted d'.id (List.mem_map_of_mem hd')
  rw [hm, hn] at hkey
  refine List.inj_on_of_nodup_map h.distinct hd hd' ?_
  rw [hm, hn, number_of_datasetKey hkey]

theorem datasetKey_not_mem {datasets : List Dataset} {count : Nat}
    (h : Numbered "dataset" count (datasets.map (·.id))) (userId : Text) :
    datasetKey userId (rowId "dataset" (count + 1)) ∉ datasets.map fun d => datasetKey d.userId d.id := by
  intro hmem
  obtain ⟨d, hd, hkey⟩ := List.mem_map.mp hmem
  obtain ⟨n, hle, hn⟩ := h.counted d.id (List.mem_map_of_mem hd)
  rw [hn] at hkey
  have hnumber := number_of_datasetKey hkey
  omega

variable {k k' : Studio} {c : Context} {userId modelId : Text} {imageCount : Int} {dataset : Dataset} {upload : Upload}

theorem initDataset_eq_ok (h : k.initDataset c userId modelId imageCount = (.ok (dataset, upload), k')) :
    dataset.id = rowId "dataset" (k.issued.datasets + 1) ∧ dataset.userId = userId ∧
      dataset.url = some upload.publicUrl ∧ k'.store.datasets = k.store.datasets ++ [dataset] ∧
      ofKey c.settings.storageBaseUrl (datasetKey userId dataset.id) k.nextDraw (Json.intShown defaultLifetime)
        = .ok upload := by
  rw [initDataset] at h
  split at h
  · cases h
  · split at h
    · cases h
    · dsimp only at h
      split at h
      · cases h
      · split at h
        · cases h
        · rename_i hupload
          cases h
          exact ⟨rfl, rfl, rfl, rfl, hupload⟩

/-- Both addresses of a new dataset are made from its key; the public one names it if the user stands in a path. -/
theorem addresses_of_initDataset (hbase : ∀ ch ∈ c.settings.storageBaseUrl.toList, isPathChar ch = true)
    (h : k.initDataset c userId modelId imageCount = (.ok (dataset, upload), k')) :
    NamesBehind (withoutTrailingSlashes c.settings.storageBaseUrl ++ "/api/upload/") (datasetKey userId dataset.id)
        upload.uploadUrl ∧
      (NamesBehind (withoutTrailingSlashes c.settings.storageBaseUrl ++ "/uploads/") (datasetKey userId dataset.id)
        upload.publicUrl ↔ StandsInPath userId) := by
  obtain ⟨hid, -, -, -, hupload⟩ := initDataset_eq_ok h
  obtain ⟨root, hroot, hpath⟩ := exists_root hbase
  obtain ⟨name, query, hname, huploadUrl, hpublicUrl⟩ := ofKey_eq_ok hroot hupload
  have hfront (s : String) : withoutTrailingSlashes c.settings.storageBaseUrl ++ Text.ofString s
      = (root ++ s.toList).map .char := by
    rw [hroot, List.map_append]
    rfl
  rw [hfront, hfront, huploadUrl, hpublicUrl]
  refine ⟨uploadUrl_namesBehind hpath hname, ?_⟩
  have huser : userId.isEncodable = true := by
    have hkey : (Utf8.encode? (datasetKey userId dataset.id)).isSome = true := by
      rw [hname]
      rfl
    simp only [Utf8.isSome_encode?, datasetKey, Text.isEncodable_append, Bool.and_eq_true] at hkey
    exact hkey.1.1.1.2
  rw [← Text.isSome_toChars?, Option.isSome_iff_exists] at huser
  obtain ⟨step, hstep⟩ := huser
  obtain rfl := Text.toChars?_eq_some.mp hstep
  rw [hid, datasetKey_eq, ← List.map_append,
    publicUrl_namesBehind_iff hpath (List.all_iff_forall_prop.mp (by decide)) ?_]
  · rw [StandsInPath, hstep]
    simp
  · intro ch hch
    rcases List.mem_append.mp hch with hnumber | hfixed
    · exact ⟨(of_mem_idChars hnumber).1, (of_mem_idChars hnumber).2.1⟩
    · have hall : ∀ c ∈ "/images.zip".toList, isPathChar c = true ∧ c ≠ '%' :=
        List.all_iff_forall_prop.mp (by decide)
      exact hall ch hfixed

end Studio

open Upload Studio

/--
In every store that operations leave, no two datasets have one key, and a dataset that is made next has another one. Its
upload address names its key. Its public address, which is stored for the worker, names it exactly if the name of the
user stands in a path as it is: it has no question mark, no number sign, and no percent sign before two hexadecimal
digits.
-/
theorem dataset_addresses_name_its_key (happenings : List Happening) :
    let k := (Activity.start.run happenings).studio
    let keys := fun s : Store => s.datasets.map fun d => datasetKey d.userId d.id
    (keys k.store).Nodup ∧
      ∀ (c : Context) (userId modelId : Text) (imageCount : Int) (dataset : Dataset) (upload : Upload) (k' : Studio),
        k.initDataset c userId modelId imageCount = (.ok (dataset, upload), k') →
        (∀ ch ∈ c.settings.storageBaseUrl.toList, isPathChar ch = true) →
        let base := withoutTrailingSlashes c.settings.storageBaseUrl
        let key := datasetKey userId dataset.id
        keys k'.store = keys k.store ++ [key] ∧ key ∉ keys k.store ∧ dataset.url = some upload.publicUrl ∧
          NamesBehind (base ++ "/api/upload/") key upload.uploadUrl ∧
          (NamesBehind (base ++ "/uploads/") key upload.publicUrl ↔ StandsInPath userId) := by
  intro k keys
  have hids := (Activity.sound_run happenings).datasets.ids
  refine ⟨nodup_datasetKeys hids, ?_⟩
  intro c userId modelId imageCount dataset upload k' h hbase base key
  obtain ⟨hid, huser, hurl, hdatasets, -⟩ := initDataset_eq_ok h
  obtain ⟨hupload, hpublic⟩ := addresses_of_initDataset hbase h
  refine ⟨?_, ?_, hurl, hupload, hpublic⟩
  · change (k'.store.datasets.map _) = _
    rw [hdatasets, List.map_append, List.map_singleton, huser]
  · change datasetKey userId dataset.id ∉ _
    rw [hid]
    exact datasetKey_not_mem hids userId

def Happening.firstModelOf (userId : Text) : List Happening :=
  [.training (.plain .small (.createModel userId "Mia" none true))]

def firstDatasetOf (userId : Text) : Result (Dataset × Upload) :=
  (Activity.start.run (Happening.firstModelOf userId)).studio.initDataset .small userId "model-1" 3

theorem exists_firstDatasetOf {userId : Text} (h : (firstDatasetOf userId).1.toOption.isSome = true) :
    ∃ dataset upload k', firstDatasetOf userId = (.ok (dataset, upload), k') := by
  generalize firstDatasetOf userId = result at h ⊢
  obtain ⟨answer, k'⟩ := result
  cases answer with
  | error failure => cases h
  | ok made => exact ⟨made.1, made.2, k', rfl⟩

theorem isPathChar_storageBaseUrl_small :
    ∀ ch ∈ Context.small.settings.storageBaseUrl.toList, isPathChar ch = true :=
  List.all_iff_forall_prop.mp (by decide)

/-- A user whose name has a percent sign and a letter beyond ASCII in it, but no escape, is named by both addresses. -/
theorem percent_user_is_named :
    ∃ dataset upload k', firstDatasetOf "50%/é" = (.ok (dataset, upload), k') ∧
      (∀ ch ∈ Context.small.settings.storageBaseUrl.toList, isPathChar ch = true) ∧ StandsInPath "50%/é" ∧
      NamesBehind (withoutTrailingSlashes Context.small.settings.storageBaseUrl ++ "/api/upload/")
        (datasetKey "50%/é" dataset.id) upload.uploadUrl ∧
      NamesBehind (withoutTrailingSlashes Context.small.settings.storageBaseUrl ++ "/uploads/")
        (datasetKey "50%/é" dataset.id) upload.publicUrl := by
  obtain ⟨dataset, upload, k', hmade⟩ :=
    exists_firstDatasetOf (by decide +kernel : (firstDatasetOf "50%/é").1.toOption.isSome = true)
  have hstands : StandsInPath "50%/é" :=
    standsInPath_ofString.mpr ⟨List.all_iff_forall_prop.mp (by decide), Percent.bytes_eq_ofChars_iff.mp (by decide)⟩
  obtain ⟨-, -, -, hupload, hpublic⟩ :=
    (dataset_addresses_name_its_key (Happening.firstModelOf "50%/é")).2 _ _ _ _ _ _ _ hmade
      isPathChar_storageBaseUrl_small
  exact ⟨dataset, upload, k', hmade, isPathChar_storageBaseUrl_small, hstands, hupload, hpublic.mpr hstands⟩

/-- A question mark in the name of the user ends the public address: it does not name the key that the upload address
names. -/
theorem question_mark_ends_public_address :
    ∃ dataset upload k', firstDatasetOf "a?b" = (.ok (dataset, upload), k') ∧
      NamesBehind (withoutTrailingSlashes Context.small.settings.storageBaseUrl ++ "/api/upload/")
        (datasetKey "a?b" dataset.id) upload.uploadUrl ∧
      ¬ NamesBehind (withoutTrailingSlashes Context.small.settings.storageBaseUrl ++ "/uploads/")
        (datasetKey "a?b" dataset.id) upload.publicUrl := by
  obtain ⟨dataset, upload, k', hmade⟩ :=
    exists_firstDatasetOf (by decide +kernel : (firstDatasetOf "a?b").1.toOption.isSome = true)
  obtain ⟨hupload, hpublic⟩ := addresses_of_initDataset isPathChar_storageBaseUrl_small hmade
  refine ⟨dataset, upload, k', hmade, hupload, ?_⟩
  rw [hpublic, standsInPath_ofString]
  exact fun h => absurd (h.1 '?' (by decide)) (by decide)

end PromptStudio
