import Wattetheria.EventLog

/-!
# The event log is a chain

Both ways of appending leave a file that `verify_chain` accepts: the rows are those of a
hash chain, the row a call reads is the last record of the chain, and what it writes
names that record's hash.  Read the other way, a file that `verify_chain` accepts is
determined by the hash of its last record.
-/

namespace WattEventLog

open WattText WattJson WattJsonText WattSigning WattChain WattRuns List

variable {crates : LogCrates}

/-! ## What `verify_chain` accepts -/

/-- A record whose signature verifies and whose hash is the one it states. -/
def Sound (crates : LogCrates) (event : EventRecord) : Prop :=
  verifyEventSignature crates event = .ok true
    ∧ hashRecord crates event.toUnsigned event.signature = event.hash

/-- The records form a chain from `prevHash` on. -/
def Chain (crates : LogCrates) (prevHash : Option String) (events : List EventRecord) : Prop :=
  Chained EventRecord.prevHash EventRecord.hash (Sound crates) prevHash events

variable {event : EventRecord} {events : List EventRecord}

lemma verifyFrom_cons {prevHash : Option String} :
    verifyFrom crates prevHash (event :: events) = .ok (true, none)
      ↔ event.prevHash = prevHash ∧ Sound crates event
        ∧ verifyFrom crates (some event.hash) events = .ok (true, none) := by
  rw [verifyFrom]
  by_cases hprev : event.prevHash = prevHash
  · rw [if_neg (not_not.mpr hprev), bind_eq_ok]
    constructor
    · rintro ⟨verified, hverified, h⟩
      cases verified with
      | false => cases h
      | true =>
        by_cases hhash : hashRecord crates event.toUnsigned event.signature = event.hash
        · have hrest := (if_neg (not_not.mpr hhash)).symm.trans h
          exact ⟨hprev, ⟨hverified, hhash⟩, hrest⟩
        · have hrest := (if_pos hhash).symm.trans h
          cases hrest
    · rintro ⟨-, ⟨hverified, hhash⟩, hrest⟩
      exact ⟨true, hverified, (if_neg (not_not.mpr hhash)).trans hrest⟩
  · rw [if_pos hprev]
    constructor
    · intro h
      cases h
    · intro h
      exact absurd h.1 hprev

/-- The loop of `verify_chain` ends well exactly on chains. -/
lemma verifyFrom_iff : ∀ {events : List EventRecord} {prevHash : Option String},
    verifyFrom crates prevHash events = .ok (true, none) ↔ Chain crates prevHash events
  | [], prevHash => by
    rw [verifyFrom]
    exact ⟨fun _ => trivial, fun _ => rfl⟩
  | event :: events, prevHash => by
    rw [verifyFrom_cons, verifyFrom_iff]
    rfl

/-! ## Rows -/

lemma rowText_line (event : EventRecord) :
    '\n' ∉ rowText crates event ∧ '\r' ∉ rowText crates event := by
  have hprintable := printable_valueText crates.numbers (.object event.fields)
  refine ⟨fun h => ?_, fun h => ?_⟩
  · exact absurd (hprintable _ h) (by decide)
  · exact absurd (hprintable _ h) (by decide)

lemma rowText_not_blank (event : EventRecord) :
    (trimChars (rowText crates event)).isEmpty = false := by
  have hbrace : '{' ∈ rowText crates event := by
    obtain ⟨body, hbody, -⟩ := objectText_eq crates.numbers event.fields
    rw [rowText, hbody]
    exact mem_cons_self
  rw [isEmpty_eq_false_iff, Ne, trimChars_eq_nil_iff]
  intro hblank
  exact absurd (hblank _ hbrace) (by decide)

/-- The file that holds these records. -/
def fileText (crates : LogCrates) (events : List EventRecord) : List Char :=
  (events.map (rowText crates)).flatMap (· ++ ['\n'])

lemma fileText_snoc (events : List EventRecord) (event : EventRecord) :
    fileText crates (events ++ [event]) = fileText crates events ++ (rowText crates event ++ ['\n']) := by
  simp [fileText]

lemma lines_fileText (events : List EventRecord) :
    lines (fileText crates events) = events.map (rowText crates) := by
  refine lines_rows fun row hrow => ?_
  obtain ⟨event, -, rfl⟩ := mem_map.mp hrow
  exact rowText_line event

lemma filter_fileText (events : List EventRecord) :
    (lines (fileText crates events)).filter (fun line => !(trimChars line).isEmpty)
      = events.map (rowText crates) := by
  rw [lines_fileText, filter_eq_self]
  intro row hrow
  obtain ⟨event, -, rfl⟩ := mem_map.mp hrow
  rw [rowText_not_blank]
  rfl

lemma fileText_blank_iff (events : List EventRecord) :
    (trimChars (fileText crates events)).isEmpty = true ↔ events = [] := by
  cases events with
  | nil => simp [fileText, trimChars]
  | cons event events =>
    have hblack : ¬trimChars (fileText crates (event :: events)) = [] := by
      rw [trimChars_eq_nil_iff]
      intro hblank
      have hrow : (trimChars (rowText crates event)).isEmpty = false := rowText_not_blank event
      refine absurd hrow ?_
      rw [Bool.not_eq_false, List.isEmpty_iff, trimChars_eq_nil_iff]
      intro c hc
      refine hblank c ?_
      rw [fileText, List.map_cons, List.flatMap_cons]
      exact mem_append_left _ (mem_append_left _ hc)
    simp [hblack]

/-- The row of the record reads back as the record. -/
def RoundTrips (crates : LogCrates) (event : EventRecord) : Prop :=
  crates.parseRecord (String.ofList (rowText crates event)) = .ok event

instance (event : EventRecord) : Decidable (RoundTrips crates event) :=
  inferInstanceAs (Decidable (_ = _))

lemma mapM_parse (text : String) : ∀ {events : List EventRecord},
    (∀ event ∈ events, RoundTrips crates event) →
    (events.map (rowText crates)).mapM (fun line =>
      withContext text (crates.parseRecord (String.ofList line))) = .ok events
  | [], _ => rfl
  | event :: events, h => by
    have hfirst : withContext text (crates.parseRecord (String.ofList (rowText crates event)))
        = .ok event := withContext_eq_ok.mpr (h event mem_cons_self)
    have hrest := mapM_parse text fun e he => h e (mem_cons_of_mem event he)
    rw [map_cons, mapM_cons, hfirst, hrest]
    rfl

/-! ## The file is a chain -/

/-- The file holds the rows of a chain, and each reads back as its record. -/
def Holds (crates : LogCrates) (raw : List Char) (events : List EventRecord) : Prop :=
  raw = fileText crates events ∧ Chain crates none events
    ∧ ∀ event ∈ events, RoundTrips crates event

lemma holds_empty : Holds crates [] [] := ⟨rfl, trivial, by simp⟩

variable {raw : List Char} {disk : Disk} {call : LogCall}

lemma Holds.getAll (h : Holds crates raw events) : getAll crates raw = .ok events := by
  obtain ⟨rfl, -, hrows⟩ := h
  rw [WattEventLog.getAll]
  split
  · rename_i hblank
    rw [(fileText_blank_iff events).mp hblank]
  · rw [filter_fileText]
    exact mapM_parse _ hrows

lemma Holds.verifyChain (h : Holds crates raw events) :
    verifyChain crates raw = .ok (true, none) := by
  rw [WattEventLog.verifyChain, h.getAll]
  exact verifyFrom_iff.mpr h.2.1

lemma Holds.lastUnlocked {last : Option EventRecord} (h : Holds crates raw events)
    (hlast : lastUnlocked crates disk raw = .ok last) : last = events.getLast? := by
  obtain ⟨rfl, -, hrows⟩ := h
  rw [WattEventLog.lastUnlocked, bind_eq_ok] at hlast
  obtain ⟨_, -, hlast⟩ := hlast
  rw [bind_eq_ok] at hlast
  obtain ⟨_, -, hlast⟩ := hlast
  cases events using List.reverseRecOn with
  | nil => exact (Except.ok.inj hlast).symm
  | append_singleton events event =>
    have hblack : ¬(trimChars (fileText crates (events ++ [event]))).isEmpty = true := by
      rw [fileText_blank_iff]
      simp
    have hfind : (lines (fileText crates (events ++ [event]))).reverse.find?
        (fun line => !(trimChars line).isEmpty) = some (rowText crates event) := by
      rw [lines_fileText, map_append, reverse_append]
      exact List.find?_cons_of_pos (by rw [rowText_not_blank]; rfl)
    rw [if_neg hblack, hfind] at hlast
    obtain ⟨record, hrecord, hsome⟩ := bind_eq_ok.mp hlast
    have hparsed := withContext_eq_ok.mp hrecord
    have hround : crates.parseRecord (String.ofList (rowText crates event)) = .ok event :=
      hrows event (by simp)
    rw [hround] at hparsed
    rw [List.getLast?_append, List.getLast?_singleton, ← Except.ok.inj hsome, Except.ok.inj hparsed]
    rfl

lemma Holds.append (h : Holds crates raw events)
    (hprev : event.prevHash = events.getLast?.map EventRecord.hash) (hsound : Sound crates event)
    (hround : RoundTrips crates event) :
    Holds crates (raw ++ (rowText crates event ++ ['\n'])) (events ++ [event]) := by
  obtain ⟨rfl, hchain, hrows⟩ := h
  refine ⟨(fileText_snoc events event).symm, ?_, ?_⟩
  · have htip : event.prevHash = tip EventRecord.hash none events := by
      rw [hprev, tip, Option.or_none]
    exact chained_snoc.mpr ⟨hchain, htip, hsound⟩
  · intro e he
    rcases mem_append.mp he with he | he
    · exact hrows e he
    · rw [mem_singleton.mp he]
      exact hround

/-! ## Calls -/

/-- What the signer signs verifies under its DID. -/
def PayloadSigner.Verifies (crates : LogCrates) (signer : PayloadSigner) : Prop :=
  ∀ message signature, signer.signBytes message = .ok signature →
    verifyWithPublicKey crates.signing message signature signer.agentDid = .ok true

def LogCall.signer : LogCall → Option PayloadSigner
  | .appendSigned _ _ _ _ _ signer => some signer
  | .appendExternal _ _ => none

lemma written_sound (h : Holds crates raw events)
    (hsigner : ∀ signer, call.signer = some signer → signer.Verifies crates)
    (hwritten : written crates raw call = .ok event) :
    event.prevHash = events.getLast?.map EventRecord.hash ∧ Sound crates event := by
  cases call with
  | appendSigned disk id now eventType payload signer =>
    simp only [written, signedRecord, bind_eq_ok] at hwritten
    obtain ⟨_, -, _, -, last, hlast, signature, hsignature, hevent⟩ := hwritten
    cases hevent
    refine ⟨by rw [h.lastUnlocked hlast], hsigner signer rfl _ _ hsignature, rfl⟩
  | appendExternal disk external =>
    simp only [written, checkExternal, bind_eq_ok, bailIf_eq_ok] at hwritten
    obtain ⟨_, ⟨_, -, _, -, last, hlast, _, hprev, verified, hverified, _, hsigned, hhash⟩,
      hevent⟩ := hwritten
    cases hevent
    simp only [decide_eq_false_iff_not, not_not, Bool.not_eq_eq_eq_not, Bool.not_false]
      at hprev hsigned hhash
    refine ⟨?_, ?_, hhash⟩
    · rw [← hprev, h.lastUnlocked hlast]
    · rw [hverified, hsigned]

lemma step_cases (raw : List Char) (call : LogCall) :
    step crates raw call = raw ∨ ∃ event, written crates raw call = .ok event
      ∧ step crates raw call = raw ++ (rowText crates event ++ ['\n']) := by
  cases call with
  | appendSigned disk id now eventType payload signer =>
    rw [step, appendSignedWithSigner, written]
    split
    · exact .inl rfl
    · rename_i event hrecord
      split
      · exact .inl rfl
      · rename_i text happend
        simp only [appendRaw, bind_eq_ok] at happend
        obtain ⟨_, -, _, -, htext⟩ := happend
        exact .inr ⟨event, hrecord, (Except.ok.inj htext).symm⟩
  | appendExternal disk event =>
    rw [step, appendExternal, written]
    split
    · exact .inl rfl
    · rename_i hcheck
      split
      · exact .inl rfl
      · rename_i text happend
        simp only [appendRaw, bind_eq_ok] at happend
        obtain ⟨_, -, _, -, htext⟩ := happend
        exact .inr ⟨event, bind_eq_ok.mpr ⟨(), hcheck, rfl⟩, (Except.ok.inj htext).symm⟩

/-- What a call needs of the crates and its signer. -/
def Served (crates : LogCrates) (raw : List Char) (call : LogCall) : Prop :=
  (∀ signer, call.signer = some signer → signer.Verifies crates)
    ∧ ∀ event, written crates raw call = .ok event → RoundTrips crates event

lemma holds_step (h : ∃ events, Holds crates raw events)
    (hserved : Served crates raw call) : ∃ events, Holds crates (step crates raw call) events := by
  obtain ⟨events, hholds⟩ := h
  have hcases : step crates raw call = raw ∨ _ := step_cases raw call
  rcases hcases with hsame | ⟨event, hwritten, hstep⟩
  · exact ⟨events, by rw [hsame]; exact hholds⟩
  · obtain ⟨hprev, hsound⟩ := written_sound hholds hserved.1 hwritten
    exact ⟨events ++ [event], by
      rw [hstep]
      exact hholds.append hprev hsound (hserved.2 event hwritten)⟩

lemma appendExternal_error {error : String}
    (h : (appendExternal crates disk raw event).1 = .error error) :
    (appendExternal crates disk raw event).2 = raw := by
  rw [appendExternal] at h ⊢
  split
  · rfl
  · rename_i hcheck
    rw [hcheck] at h
    dsimp only at h ⊢
    split at h
    · rfl
    · cases h

/-- Whatever is appended, signed here or handed in, the file verifies; and an event that is
refused leaves it as it was. -/
theorem appends_verify (calls : List LogCall)
    (hserved : AllSteps (step crates) (Served crates) [] calls) :
    verifyChain crates (run (step crates) [] calls) = .ok (true, none)
      ∧ ∀ disk raw event error, (appendExternal crates disk raw event).1 = .error error →
          (appendExternal crates disk raw event).2 = raw := by
  refine ⟨?_, ?_⟩
  · have hholds : ∃ events, Holds crates (run (step crates) [] calls) events :=
      inv_run (P := fun raw => ∃ events, Holds crates raw events)
        (fun _ _ hraw hcall => holds_step hraw hcall) ⟨[], holds_empty⟩ hserved
    obtain ⟨events, hevents⟩ := hholds
    exact hevents.verifyChain
  · intro disk raw event error herror
    exact appendExternal_error herror

/-! ## A small instance -/

/-- Crates that read back the rows of the records they know, and hash into four bytes. -/
def toyCrates (known : List EventRecord) : LogCrates where
  signing := toySigning
  numbers := decimalNumbers
  canonicalNumbers := decimalNumbers
  parseRecord text :=
    okOr "unknown row" (known.find? fun event =>
      String.ofList (valueText decimalNumbers (.object event.fields)) == text)
  sha256 bytes :=
    let code := bytes.foldl (fun code byte => (31 * code + byte.toNat) % 2 ^ 32) 7
    [code / 2 ^ 24, code / 2 ^ 16, code / 2 ^ 8, code].map Nat.toUInt8

def toySigner (name : String) : PayloadSigner where
  agentDid := "did:key:z" ++ name
  signBytes _ := .ok ("sig:" ++ name)

/-- A record of `name` as it would be signed at time zero. -/
def toyRecord (id name eventType : String) (prevHash : Option String) : EventRecord :=
  let unsigned : UnsignedEventRecord :=
    { id, eventType, payload := .null, timestamp := 0, agentDid := "did:key:z" ++ name, prevHash }
  { id, eventType, payload := .null, timestamp := 0, agentDid := "did:key:z" ++ name, prevHash,
    signature := "sig:" ++ name,
    hash := hashRecord (toyCrates []) unsigned ("sig:" ++ name) }

def toyFirst : EventRecord := toyRecord "e1" "al" "OPEN" none

def toySecond : EventRecord := toyRecord "e2" "bo" "DONE" (some toyFirst.hash)

def toyLog : LogCrates := toyCrates [toyFirst, toySecond]

/-- The node signs a first event, is handed a second one, and then the first one again. -/
def toyCalls : List LogCall :=
  [.appendSigned .working "e1" 0 "OPEN" .null (toySigner "al"), .appendExternal .working toySecond,
   .appendExternal .working toyFirst]

theorem appends_verify_three : AllSteps (step toyLog) (Served toyLog) [] toyCalls
      ∧ verifyChain toyLog (run (step toyLog) [] toyCalls) = .ok (true, none)
      ∧ getAll toyLog (run (step toyLog) [] toyCalls) = .ok [toyFirst, toySecond] := by
  have hverifies : (toySigner "al").Verifies toyLog := by
    intro message signature h
    cases h
    rfl
  have hserved : AllSteps (step toyLog) (Served toyLog) [] toyCalls := by
    refine ⟨⟨?_, ?_⟩, ⟨?_, ?_⟩, ⟨?_, ?_⟩, trivial⟩
    · intro signer h
      cases h
      exact hverifies
    · intro event h
      have hfirst : written toyLog [] (.appendSigned .working "e1" 0 "OPEN" .null (toySigner "al"))
          = .ok toyFirst := by decide +kernel
      rw [← Except.ok.inj (hfirst.symm.trans h)]
      decide +kernel
    · intro signer h
      cases h
    · intro event h
      obtain ⟨_, -, hevent⟩ := bind_eq_ok.mp h
      rw [← Except.ok.inj hevent]
      decide +kernel
    · intro signer h
      cases h
    · intro event h
      obtain ⟨_, -, hevent⟩ := bind_eq_ok.mp h
      rw [← Except.ok.inj hevent]
      decide +kernel
  exact ⟨hserved, (appends_verify toyCalls hserved).1, by decide +kernel⟩

/-! ## What the last hash tells -/

lemma hashInput_inj {u v : UnsignedEventRecord} {s t : String}
    (h : hashInput crates u s = hashInput crates v t) :
    canonicalBytes crates u = canonicalBytes crates v ∧ s = t := by
  rw [hashInput, hashInput, canonicalBytes, canonicalBytes, DocumentCrates.canonicalBytes,
    DocumentCrates.canonicalBytes, ← asBytes_append, ← asBytes_append]
    at h
  have htext := congrArg String.toList (asBytes_injective h)
  rw [String.toList_append, String.toList_append, String.toList_ofList, String.toList_ofList]
    at htext
  obtain ⟨hcanonical, hsignature⟩ := objectText_append_inj crates.canonicalNumbers htext
  refine ⟨?_, String.toList_injective hsignature⟩
  rw [canonicalBytes, canonicalBytes, DocumentCrates.canonicalBytes,
    DocumentCrates.canonicalBytes]
  exact congrArg (fun text => asBytes (String.ofList text)) hcanonical

/-- The bytes that were hashed. -/
def hashed (crates : LogCrates) (events : List EventRecord) : Set (List UInt8) :=
  {bytes | ∃ event ∈ events, bytes = hashInput crates event.toUnsigned event.signature}

/-- The records that were signed. -/
def unsignedRecords (events : List EventRecord) : Set UnsignedEventRecord :=
  {unsigned | ∃ event ∈ events, unsigned = event.toUnsigned}

lemma injOn_hashed (h : ∀ a ∈ events, ∀ b ∈ events,
      crates.sha256 (hashInput crates a.toUnsigned a.signature)
        = crates.sha256 (hashInput crates b.toUnsigned b.signature) →
      hashInput crates a.toUnsigned a.signature = hashInput crates b.toUnsigned b.signature) :
    Set.InjOn crates.sha256 (hashed crates events) := by
  rintro x ⟨a, ha, hx⟩ y ⟨b, hb, hy⟩ hab
  rw [hx, hy] at hab ⊢
  exact h a ha b hb hab

lemma injOn_unsignedRecords (h : ∀ a ∈ events, ∀ b ∈ events,
      canonicalBytes crates a.toUnsigned = canonicalBytes crates b.toUnsigned →
      a.toUnsigned = b.toUnsigned) :
    Set.InjOn (canonicalBytes crates) (unsignedRecords events) := by
  rintro x ⟨a, ha, hx⟩ y ⟨b, hb, hy⟩ hab
  rw [hx, hy] at hab ⊢
  exact h a ha b hb hab

lemma sound_unique {a b : EventRecord} (hsha : Set.InjOn crates.sha256 (hashed crates events))
    (hcanonical : Set.InjOn (canonicalBytes crates) (unsignedRecords events)) (ha : a ∈ events)
    (hb : b ∈ events) (hsa : Sound crates a) (hsb : Sound crates b) (hhash : a.hash = b.hash) :
    a = b := by
  have hdigest : crates.sha256 (hashInput crates a.toUnsigned a.signature)
      = crates.sha256 (hashInput crates b.toUnsigned b.signature) := by
    apply hexEncode_injective
    exact hsa.2.trans (hhash.trans hsb.2.symm)
  have hinput := hsha ⟨a, ha, rfl⟩ ⟨b, hb, rfl⟩ hdigest
  obtain ⟨hbytes, hsignature⟩ := hashInput_inj hinput
  have hunsigned : a.toUnsigned = b.toUnsigned := hcanonical ⟨a, ha, rfl⟩ ⟨b, hb, rfl⟩ hbytes
  obtain ⟨_, _, _, _, _, _, _, _⟩ := a
  obtain ⟨_, _, _, _, _, _, _, _⟩ := b
  cases hunsigned
  cases hsignature
  cases hhash
  rfl

lemma chain_of_verifyChain (h : verifyChain crates raw = .ok (true, none))
    (hevents : getAll crates raw = .ok events) : Chain crates none events := by
  rw [verifyChain, hevents] at h
  exact verifyFrom_iff.mp h

/-- **TAMPER EVIDENCE**: two logs that verify and end in the same hash hold the same records. -/
theorem last_hash_determines_log {raw raw' : List Char} {events events' : List EventRecord}
    {last last' : EventRecord} (hsha : Set.InjOn crates.sha256 (hashed crates (events ++ events')))
    (hcanonical : Set.InjOn (canonicalBytes crates) (unsignedRecords (events ++ events')))
    (hverified : verifyChain crates raw = .ok (true, none))
    (hverified' : verifyChain crates raw' = .ok (true, none))
    (hevents : getAll crates raw = .ok events) (hevents' : getAll crates raw' = .ok events')
    (hlast : events.getLast? = some last) (hlast' : events'.getLast? = some last')
    (hhash : last.hash = last'.hash) : events = events' := by
  have htip : tip EventRecord.hash none events = tip EventRecord.hash none events' := by
    rw [tip, tip, hlast, hlast']
    exact congrArg some hhash
  refine chained_unique (chain_of_verifyChain hverified hevents)
    (chain_of_verifyChain hverified' hevents') ?_ htip
  intro a ha b hb hsa hsb hab
  exact sound_unique hsha hcanonical (mem_append_left _ ha) (mem_append_right _ hb)
    hsa hsb hab

/-- A file of the two records, and the same file with a blank line between them. -/
def toyFile : List Char :=
  rowText toyLog toyFirst ++ '\n' :: (rowText toyLog toySecond ++ ['\n'])

def toySpacedFile : List Char :=
  rowText toyLog toyFirst ++ '\n' :: '\n' :: rowText toyLog toySecond

theorem last_hash_determines_two : ∃ events events',
    getAll toyLog toyFile = .ok events ∧ getAll toyLog toySpacedFile = .ok events'
      ∧ toyFile ≠ toySpacedFile ∧ events.length = 2 ∧ events = events' := by
  have hall : getAll toyLog toyFile = .ok [toyFirst, toySecond] := by decide +kernel
  have hall' : getAll toyLog toySpacedFile = .ok [toyFirst, toySecond] := by decide +kernel
  have hsha : Set.InjOn toyLog.sha256
      (hashed toyLog ([toyFirst, toySecond] ++ [toyFirst, toySecond])) :=
    injOn_hashed (by decide +kernel)
  have hcanonical : Set.InjOn (canonicalBytes toyLog)
      (unsignedRecords ([toyFirst, toySecond] ++ [toyFirst, toySecond])) :=
    injOn_unsignedRecords (by decide +kernel)
  have hverified : verifyChain toyLog toyFile = .ok (true, none) := by decide +kernel
  have hverified' : verifyChain toyLog toySpacedFile = .ok (true, none) := by decide +kernel
  have hlast : [toyFirst, toySecond].getLast? = some toySecond := rfl
  exact ⟨_, _, hall, hall', by decide +kernel, rfl,
    last_hash_determines_log hsha hcanonical hverified hverified' hall hall' hlast hlast rfl⟩

/-! ## Replicas -/

section

variable (hsha : Set.InjOn crates.sha256 (hashed crates events))
  (hcanonical : Set.InjOn (canonicalBytes crates) (unsignedRecords events))

include hsha hcanonical

end

end WattEventLog
