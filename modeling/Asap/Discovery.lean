import Asap.Locks
import Asap.ManifestCache
import Asap.ManifestSigning

-- `get_manifest` and `discover` of a client: tasks that share its manifest cache and its locks,
-- one for each URL, and give way wherever they wait for the lock, the peer or the thread that
-- verifies a signature.
namespace Asap.Discovery
open Interleaving OrderedDict PythonValue ManifestCaching ManifestSigning

-- `decimal` is the digit that Python reads in a character (`\d`).
structure Config where
  httpBaseUrl : String
  verifySignatures : Bool
  trustedManifestKeys : Dict String String
  decimal : Char → Option Nat

inductive Call where
  | getManifest (url : Option String)
  | discover (baseUrl : String)
  deriving DecidableEq

def wellknownManifestPath : String := "/.well-known/asap/manifest.json"

def rstripSlashes (text : String) : String := String.ofList (text.toList.reverse.dropWhile (fun c => c = '/')).reverse

def Call.url (config : Config) : Call → String
  | .getManifest (some url) => url
  | .getManifest none => config.httpBaseUrl ++ wellknownManifestPath
  | .discover baseUrl => rstripSlashes baseUrl ++ wellknownManifestPath

def Call.useSchemaValidator : Call → Bool
  | .getManifest _ => false
  | .discover _ => true

def Call.parseTtl : Call → Bool
  | .getManifest _ => false
  | .discover _ => true

-- `json` is `response.json()`, `none` where it raises.
structure Response where
  status : Nat
  cacheControl : Option String
  json : Option Value

inductive Reply where
  | response (response : Response)
  | timeout
  | connectError
  | otherError

inductive DiscoveryError where
  | notConnected
  | httpStatus (code : Nat)
  | invalidJson
  | timeout
  | connection
  | unexpected
  | signature (error : SignatureError)
  | manifestValidation
  | invalidFormat
  | maxAgeDigits
  | cancelled
  deriving DecidableEq

-- `max-age\s*=\s*(\d+)` at this place, in any case.
def maxAgeHere (config : Config) (text : List Char) : Option (List Nat) :=
  if (text.take 7).map Char.toLower = "max-age".toList then
    match (text.drop 7).dropWhile isSpace with
    | '=' :: rest =>
      match ((rest.dropWhile isSpace).map config.decimal).takeWhile Option.isSome with
      | [] => none
      | digits => some (digits.filterMap id)
    | _ => none
  else none

def maxAgeDigits (config : Config) : List Char → Option (List Nat)
  | [] => none
  | c :: rest =>
    match maxAgeHere config (c :: rest) with
    | some digits => some digits
    | none => maxAgeDigits config rest

def discoverCacheMaxAgeCap : Nat := 86400

-- `_parse_max_age_from_cache_control`; the outer `none` is the ValueError of `int` on more
-- digits than it converts.
def parseMaxAge (config : Config) (cacheControl : Option String) : Option (Option Rat) :=
  match maxAgeDigits config (cacheControl.getD "").toList with
  | none => some none
  | some digits =>
    if 4300 < digits.length then none
    else
      let seconds := digits.foldl (fun value digit => 10 * value + digit) 0
      if 0 < seconds then some (some (min seconds discoverCacheMaxAgeCap : Nat)) else some none

-- What a body is before its signature is verified, if it is.
inductive Parsed (Manifest PublicKey : Type) where
  | plain (manifest : Manifest)
  | unchecked (signed : SignedManifest Manifest)
  | toVerify (signed : SignedManifest Manifest) (key : PublicKey)

section Client
variable {Manifest PublicKey : Type} (crypto : Crypto Manifest PublicKey) (config : Config)

def parsePlain (useSchemaValidator : Bool) (body : Value) : Except DiscoveryError (Parsed Manifest PublicKey) :=
  match crypto.validateManifest body with
  | some manifest => .ok (.plain manifest)
  | none => if useSchemaValidator then .error .manifestValidation else .error .invalidFormat

def parseSigned (url : String) (body : Value) : Except DiscoveryError (Parsed Manifest PublicKey) :=
  match crypto.validateSigned body with
  | none => .error .invalidFormat
  | some signed =>
    if config.verifySignatures then
      match config.trustedManifestKeys.get url with
      | none => .error (.signature .noTrustedKey)
      | some trustedB64 =>
        if trustedB64 = "" then .error (.signature .noTrustedKey)
        else match loadPublicKeyFromBase64 crypto trustedB64 with
          | none => .error .invalidFormat
          | some trustedKey => .ok (.toVerify signed trustedKey)
    else .ok (.unchecked signed)

-- `_coerce_manifest_payload` up to the thread of `verify_manifest`.
def coerceManifestPayload (url : String) (useSchemaValidator : Bool) (body : Value) : Except DiscoveryError (Parsed Manifest PublicKey) :=
  match body.contains "manifest",body.contains "signature" with
  | some true,some true => parseSigned crypto config url body
  | none,_ => .error .invalidFormat
  | some true,none => .error .invalidFormat
  | _,_ => parsePlain crypto useSchemaValidator body

-- The client's cache, the URLs whose lock is held, and every response of an endpoint so far.
structure World (Manifest : Type) where
  cache : ManifestCache Manifest
  locked : List String
  served : List (String × Response)

inductive Task (Manifest PublicKey : Type) where
  | called (call : Call)
  | waiting (call : Call)
  | fetching (call : Call)
  | verifying (call : Call) (response : Response) (signed : SignedManifest Manifest) (key : PublicKey)
  | returned (call : Call) (manifest : Manifest)
  | raised (call : Call) (error : DiscoveryError)

-- `now` is the clock when the task goes on.
inductive Input where
  | start (connected : Bool)
  | acquire (now : Rat)
  | reply (reply : Reply) (now : Rat)
  | verified (now : Rat)
  | cancel

variable (world : World Manifest) (call : Call)

def release : World Manifest := {world with locked := world.locked.erase (call.url config)}

def invalidated : World Manifest := {world with cache := world.cache.invalidate (call.url config)}

def accept (response : Response) (manifest : Manifest) (now : Rat) : World Manifest × Task Manifest PublicKey :=
  match if call.parseTtl then parseMaxAge config response.cacheControl else some none with
  | none => (release config world call,.raised call .maxAgeDigits)
  | some ttl =>
    (release config {world with cache := world.cache.set (call.url config) manifest ttl now} call,.returned call manifest)

def lookUp (now : Rat) : World Manifest × Task Manifest PublicKey :=
  match world.cache.get (call.url config) now with
  | (cache,some manifest) => ({world with cache := cache},.returned call manifest)
  | (cache,none) => ({world with cache := cache,locked := call.url config :: world.locked},.fetching call)

def respond (response : Response) (now : Rat) : World Manifest × Task Manifest PublicKey :=
  let answered := {world with served := (call.url config,response) :: world.served}
  if 400 ≤ response.status then (release config (invalidated config answered call) call,.raised call (.httpStatus response.status))
  else match response.json with
    | none => (release config (invalidated config answered call) call,.raised call .invalidJson)
    | some body =>
      match coerceManifestPayload crypto config (call.url config) call.useSchemaValidator body with
      | .error error => (release config answered call,.raised call error)
      | .ok (.plain manifest) => accept config answered call response manifest now
      | .ok (.unchecked signed) => accept config answered call response signed.manifest now
      | .ok (.toVerify signed key) => (answered,.verifying call response signed key)

def receive (now : Rat) : Reply → World Manifest × Task Manifest PublicKey
  | .response response => respond crypto config world call response now
  | .timeout => (release config (invalidated config world call) call,.raised call .timeout)
  | .connectError => (release config (invalidated config world call) call,.raised call .connection)
  | .otherError => (release config (invalidated config world call) call,.raised call .unexpected)

def conclude (response : Response) (signed : SignedManifest Manifest) (key : PublicKey) (now : Rat) : World Manifest × Task Manifest PublicKey :=
  match verifyManifest crypto signed (some key) with
  | .ok () => accept config world call response signed.manifest now
  | .error (.signature error) => (release config world call,.raised call (.signature error))
  | .error .other => (release config world call,.raised call .invalidFormat)

-- A cancelled task leaves the cache as it is and gives its lock back.
def step (world : World Manifest) : Task Manifest PublicKey → Input → Option (World Manifest × Task Manifest PublicKey)
  | .called call,.start connected => some (world,if connected then .waiting call else .raised call .notConnected)
  | .waiting call,.acquire now => if call.url config ∈ world.locked then none else some (lookUp config world call now)
  | .fetching call,.reply reply now => some (receive crypto config world call now reply)
  | .verifying call response signed key,.verified now => some (conclude crypto config world call response signed key now)
  | .called call,.cancel => some (world,.raised call .cancelled)
  | .waiting call,.cancel => some (world,.raised call .cancelled)
  | .fetching call,.cancel => some (release config world call,.raised call .cancelled)
  | .verifying call _ _ _,.cancel => some (release config world call,.raised call .cancelled)
  | _,_ => none

def Task.isCalled : Task Manifest PublicKey → Bool
  | .called _ => true
  | _ => false

def program : Program (World Manifest) (Task Manifest PublicKey) Input Empty where
  arrives := Task.isCalled
  advance world task input := (step crypto config world task input).map (fun (world,task) => (world,task,[]))

def World.init (maxSize : Int) : World Manifest := ⟨{maxSize},[],[]⟩

-- A signed envelope is told by its keys.
def isSigned (body : Value) : Bool := body.contains "manifest" = some true && body.contains "signature" = some true

-- The manifest of a signed envelope whose signature verifies under the URL's trusted key.
def SignedFor (url : String) (body : Value) (manifest : Manifest) : Prop :=
  ∃ signed trustedB64 key, isSigned body = true ∧ crypto.validateSigned body = some signed ∧ signed.manifest = manifest ∧
    config.trustedManifestKeys.get url = some trustedB64 ∧ loadPublicKeyFromBase64 crypto trustedB64 = some key ∧
    Genuine crypto signed key

def PlainFor (body : Value) (manifest : Manifest) : Prop := isSigned body = false ∧ crypto.validateManifest body = some manifest

def Served (world : World Manifest) (url : String) (body : Value) : Prop :=
  ∃ response, (url,response) ∈ world.served ∧ response.status < 400 ∧ response.json = some body

def Obtained (world : World Manifest) (url : String) (manifest : Manifest) : Prop :=
  ∃ body, Served world url body ∧ (SignedFor crypto config url body manifest ∨ PlainFor crypto body manifest)

def Sound (world : World Manifest) : Prop :=
  ∀ url manifest, world.cache.Holds url manifest → Obtained crypto config world url manifest

-- A task that waits for the verification knows which envelope and which key it is about.
def Own (world : World Manifest) : Task Manifest PublicKey → Prop
  | .verifying call response signed key => ∃ body trustedB64, (call.url config,response) ∈ world.served ∧ response.status < 400 ∧
      response.json = some body ∧ isSigned body = true ∧ crypto.validateSigned body = some signed ∧
      config.trustedManifestKeys.get (call.url config) = some trustedB64 ∧ loadPublicKeyFromBase64 crypto trustedB64 = some key
  | .returned call manifest => Obtained crypto config world (call.url config) manifest
  | _ => True

structure Keeps (before : World Manifest) (after : World Manifest × Task Manifest PublicKey) : Prop where
  sound : Sound crypto config after.1
  own : Own crypto config after.1 after.2
  grows : ∀ answer ∈ before.served, answer ∈ after.1.served

variable {crypto config} {world} {call} {later : World Manifest}

theorem Served.grows (grows : ∀ answer ∈ world.served, answer ∈ later.served) (served : Served world url body) : Served later url body := by
  obtain ⟨response,member,success,decoded⟩ := served
  exact ⟨response,grows _ member,success,decoded⟩

theorem Obtained.grows (grows : ∀ answer ∈ world.served, answer ∈ later.served) {url : String} {manifest : Manifest}
    (obtained : Obtained crypto config world url manifest) : Obtained crypto config later url manifest := by
  obtain ⟨body,served,source⟩ := obtained
  exact ⟨body,served.grows grows,source⟩

theorem Own.grows (grows : ∀ answer ∈ world.served, answer ∈ later.served) {task : Task Manifest PublicKey}
    (own : Own crypto config world task) : Own crypto config later task := by
  cases task with
  | verifying call response signed key =>
    obtain ⟨body,trustedB64,served,known⟩ := own
    exact ⟨body,trustedB64,grows _ served,known⟩
  | returned call manifest => exact Obtained.grows grows own
  | called call => trivial
  | waiting call => trivial
  | fetching call => trivial
  | raised call error => trivial

-- A world with no more in its cache and no fewer responses stays sound.
theorem Sound.shrinks (sound : Sound crypto config world) (grows : ∀ answer ∈ world.served, answer ∈ later.served)
    (within : ∀ url manifest, later.cache.Holds url manifest → world.cache.Holds url manifest) : Sound crypto config later :=
  fun url manifest holds => (sound url manifest (within url manifest holds)).grows grows

theorem accept_keeps (sound : Sound crypto config world) (response : Response) (now : Rat) {manifest : Manifest}
    (obtained : Obtained crypto config world (call.url config) manifest) :
    Keeps crypto config world (accept config world call response manifest now : World Manifest × Task Manifest PublicKey) := by
  unfold accept
  split
  · exact ⟨sound,trivial,fun _ member => member⟩
  · refine ⟨fun url stored holds => ?_,obtained,fun _ member => member⟩
    rcases set_holds holds with ⟨rfl,rfl⟩ | before
    · exact obtained
    · exact sound url stored before

theorem lookUp_keeps (sound : Sound crypto config world) (now : Rat) :
    Keeps crypto config world (lookUp config world call now : World Manifest × Task Manifest PublicKey) := by
  have within : ∀ url manifest, (world.cache.get (call.url config) now).1.Holds url manifest → world.cache.Holds url manifest :=
    fun url manifest holds => get_holds holds
  unfold lookUp
  split
  · rename_i cache manifest found
    rw [found] at within
    have held : world.cache.Holds (call.url config) manifest := get_found (congrArg Prod.snd found)
    exact ⟨sound.shrinks (fun _ member => member) within,sound _ _ held,fun _ member => member⟩
  · rename_i cache found
    rw [found] at within
    exact ⟨sound.shrinks (fun _ member => member) within,trivial,fun _ member => member⟩

theorem parseSigned_toVerify {url : String} {body : Value} {parsed : Parsed Manifest PublicKey} (verifying : config.verifySignatures = true)
    (read : parseSigned crypto config url body = .ok parsed) :
    ∃ signed trustedB64 key, parsed = .toVerify signed key ∧ crypto.validateSigned body = some signed ∧
      config.trustedManifestKeys.get url = some trustedB64 ∧ loadPublicKeyFromBase64 crypto trustedB64 = some key := by
  unfold parseSigned at read
  split at read
  · cases read
  · rename_i signed validated
    rw [if_pos verifying] at read
    split at read
    · cases read
    · rename_i trustedB64 trusted
      split at read
      · cases read
      · split at read
        · cases read
        · rename_i key loaded
          cases read
          exact ⟨signed,trustedB64,key,rfl,validated,trusted,loaded⟩

theorem parsePlain_plain {useSchemaValidator : Bool} {body : Value} {parsed : Parsed Manifest PublicKey}
    (read : parsePlain crypto useSchemaValidator body = .ok parsed) :
    ∃ manifest, parsed = .plain manifest ∧ crypto.validateManifest body = some manifest := by
  unfold parsePlain at read
  split at read
  · rename_i manifest validated
    cases read
    exact ⟨manifest,rfl,validated⟩
  · split at read <;> cases read

-- A verifying client takes a body of the signed shape to the verification, and no other one.
theorem coerce_cases {url : String} {useSchemaValidator : Bool} {body : Value} {parsed : Parsed Manifest PublicKey}
    (verifying : config.verifySignatures = true)
    (read : coerceManifestPayload crypto config url useSchemaValidator body = .ok parsed) :
    (∃ manifest, parsed = .plain manifest ∧ PlainFor crypto body manifest) ∨
    (∃ signed trustedB64 key, parsed = .toVerify signed key ∧ isSigned body = true ∧ crypto.validateSigned body = some signed ∧
      config.trustedManifestKeys.get url = some trustedB64 ∧ loadPublicKeyFromBase64 crypto trustedB64 = some key) := by
  unfold coerceManifestPayload at read
  split at read
  · rename_i hasManifest hasSignature
    obtain ⟨signed,trustedB64,key,shape,known⟩ := parseSigned_toVerify verifying read
    exact .inr ⟨signed,trustedB64,key,shape,by simp [isSigned,hasManifest,hasSignature],known⟩
  · cases read
  · cases read
  · rename_i _ notBoth _
    obtain ⟨manifest,shape,validated⟩ := parsePlain_plain read
    refine .inl ⟨manifest,shape,?_,validated⟩
    cases shaped : isSigned body with
    | false => rfl
    | true =>
      simp only [isSigned,Bool.and_eq_true,decide_eq_true_eq] at shaped
      exact absurd shaped.2 (notBoth shaped.1)

theorem respond_keeps (verifying : config.verifySignatures = true) (sound : Sound crypto config world) (response : Response) (now : Rat) :
    Keeps crypto config world (respond crypto config world call response now) := by
  have grows : ∀ answer ∈ world.served, answer ∈ (call.url config,response) :: world.served := fun _ member => List.mem_cons_of_mem _ member
  have answered : Sound crypto config {world with served := (call.url config,response) :: world.served} :=
    sound.shrinks grows (fun _ _ holds => holds)
  have invalid : Sound crypto config (invalidated config {world with served := (call.url config,response) :: world.served} call) :=
    answered.shrinks (fun _ member => member) (fun _ _ holds => invalidate_holds holds)
  simp only [respond]
  split
  · exact ⟨invalid,trivial,grows⟩
  · rename_i success
    split
    · exact ⟨invalid,trivial,grows⟩
    · rename_i body decoded
      have success : response.status < 400 := Nat.lt_of_not_le success
      have here : (call.url config,response) ∈ (call.url config,response) :: world.served := List.mem_cons_self
      split
      · exact ⟨answered,trivial,grows⟩
      · rename_i manifest read
        rcases coerce_cases verifying read with ⟨_,shape,plain⟩ | ⟨_,_,_,shape,_⟩ <;> cases shape
        have kept := accept_keeps answered response now ⟨body,⟨response,here,success,decoded⟩,.inr plain⟩
        exact ⟨kept.sound,kept.own,fun answer member => kept.grows answer (grows answer member)⟩
      · rename_i signed read
        rcases coerce_cases verifying read with ⟨_,shape,_⟩ | ⟨_,_,_,shape,_⟩ <;> cases shape
      · rename_i signed key read
        rcases coerce_cases verifying read with ⟨_,shape,_⟩ | ⟨_,trustedB64,_,shape,shaped,validated,trusted,loaded⟩ <;> cases shape
        exact ⟨answered,⟨body,trustedB64,here,success,decoded,shaped,validated,trusted,loaded⟩,grows⟩

theorem receive_keeps (verifying : config.verifySignatures = true) (sound : Sound crypto config world) (now : Rat) (reply : Reply) :
    Keeps crypto config world (receive crypto config world call now reply) := by
  have invalid : Sound crypto config (invalidated config world call) :=
    sound.shrinks (fun _ member => member) (fun _ _ holds => invalidate_holds holds)
  cases reply with
  | response response => exact respond_keeps verifying sound response now
  | timeout => exact ⟨invalid,trivial,fun _ member => member⟩
  | connectError => exact ⟨invalid,trivial,fun _ member => member⟩
  | otherError => exact ⟨invalid,trivial,fun _ member => member⟩

theorem conclude_keeps (sound : Sound crypto config world) {response : Response} {signed : SignedManifest Manifest} {key : PublicKey} (now : Rat)
    (own : Own crypto config world (.verifying call response signed key)) :
    Keeps crypto config world (conclude crypto config world call response signed key now) := by
  obtain ⟨body,trustedB64,served,success,decoded,shaped,validated,trusted,loaded⟩ := own
  unfold conclude
  split
  · rename_i verified
    have genuine := (verifyManifest_genuine crypto signed key).mp verified
    refine accept_keeps sound response now ⟨body,⟨response,served,success,decoded⟩,.inl ?_⟩
    exact ⟨signed,trustedB64,key,shaped,validated,rfl,trusted,loaded,genuine⟩
  · exact ⟨sound,trivial,fun _ member => member⟩
  · exact ⟨sound,trivial,fun _ member => member⟩

theorem step_keeps (verifying : config.verifySignatures = true) (sound : Sound crypto config world) {task : Task Manifest PublicKey}
    (own : Own crypto config world task) {input : Input} {after : World Manifest × Task Manifest PublicKey}
    (taken : step crypto config world task input = some after) : Keeps crypto config world after := by
  have unchanged : ∀ answer ∈ world.served, answer ∈ world.served := fun _ member => member
  unfold step at taken
  split at taken
  · cases taken
    split
    · exact ⟨sound,trivial,unchanged⟩
    · exact ⟨sound,trivial,unchanged⟩
  · split at taken
    · cases taken
    · cases taken
      exact lookUp_keeps sound _
  · cases taken
    exact receive_keeps verifying sound _ _
  · cases taken
    exact conclude_keeps sound _ own
  · cases taken
    exact ⟨sound,trivial,unchanged⟩
  · cases taken
    exact ⟨sound,trivial,unchanged⟩
  · cases taken
    exact ⟨sound,trivial,unchanged⟩
  · cases taken
    exact ⟨sound,trivial,unchanged⟩
  · cases taken

theorem advance_step {task task' : Task Manifest PublicKey} {input : Input} {events : List Empty}
    (advanced : (program crypto config).advance world task input = some (later,task',events)) :
    step crypto config world task input = some (later,task') := by
  obtain ⟨after,taken,same⟩ := Option.map_eq_some_iff.mp advanced
  cases same
  exact taken

theorem init_sound (maxSize : Int) : Sound crypto config (World.init maxSize) := by
  rintro url manifest ⟨entry,found,-⟩
  cases found

theorem manifests_signed_or_plain (crypto : Crypto Manifest PublicKey) (config : Config) (verifying : config.verifySignatures = true)
    (maxSize : Int) (moves : List (Move (Task Manifest PublicKey) Input)) (final : Machine (World Manifest) (Task Manifest PublicKey) Empty)
    (run : Runs (program crypto config).next (fun _ _ => True) (.init (World.init maxSize)) moves final) :
    (∀ url manifest, final.store.cache.Holds url manifest → Obtained crypto config final.store url manifest) ∧
    (∀ id call manifest, final.tasks.get id = some (.returned call manifest) →
      Obtained crypto config final.store (call.url config) manifest) := by
  have holds := (program crypto config).interleaved (fun _ _ => True) (fun world _ => Sound crypto config world) (Own crypto config)
    (fun world task arrives => by
      cases task with
      | called call => trivial
      | _ => cases arrives)
    (fun m id input task store task' events holds _ known advanced => by
      have kept := step_keeps verifying holds.1 (holds.2 id task known) (advance_step advanced)
      exact ⟨kept.sound,kept.own,fun other waiting _ found => (holds.2 other waiting found).grows kept.grows⟩)
    (.init (World.init maxSize)) final moves run ⟨init_sound maxSize,fun id task found => by cases found⟩
  exact ⟨holds.1,fun id call manifest found => holds.2 id _ found⟩

section Locking

-- The URL whose lock the task holds.
def Task.lock (config : Config) : Task Manifest PublicKey → Option String
  | .fetching call => some (call.url config)
  | .verifying call _ _ _ => some (call.url config)
  | _ => none

-- The task has given its lock back.
structure Released (config : Config) (world : World Manifest) (call : Call) (after : World Manifest × Task Manifest PublicKey) : Prop where
  back : after.1.locked = world.locked.erase (call.url config)
  without : after.2.lock config = none

theorem accept_released (response : Response) (manifest : Manifest) (now : Rat) :
    Released config world call (accept config world call response manifest now : World Manifest × Task Manifest PublicKey) := by
  unfold accept
  split <;> exact ⟨rfl,rfl⟩

theorem respond_locks (response : Response) (now : Rat) :
    LockStep World.locked (Task.lock config) world (.fetching call) (respond crypto config world call response now).1
      (respond crypto config world call response now).2 := by
  have accepted (manifest : Manifest) : Released config {world with served := (call.url config,response) :: world.served} call
      (accept config _ call response manifest now : World Manifest × Task Manifest PublicKey) := accept_released response manifest now
  simp only [respond]
  split
  · exact .gives (call.url config) rfl rfl rfl
  · split
    · exact .gives (call.url config) rfl rfl rfl
    · split
      · exact .gives (call.url config) rfl rfl rfl
      · rename_i manifest _
        exact .gives (call.url config) rfl (accepted manifest).back (accepted manifest).without
      · rename_i signed _
        exact .gives (call.url config) rfl (accepted signed.manifest).back (accepted signed.manifest).without
      · exact .keeps rfl rfl

theorem lookUp_locks {now : Rat} (free : call.url config ∉ world.locked) {task' : Task Manifest PublicKey}
    (looked : lookUp config world call now = (later,task')) : LockStep World.locked (Task.lock config) world (.waiting call) later task' := by
  unfold lookUp at looked
  split at looked
  · cases looked
    exact .keeps rfl rfl
  · cases looked
    exact .takes (call.url config) rfl free rfl rfl

variable (crypto) in
theorem receive_locks (now : Rat) (reply : Reply) :
    LockStep World.locked (Task.lock config) world (.fetching call) (receive crypto config world call now reply).1
      (receive crypto config world call now reply).2 := by
  cases reply with
  | response response => exact respond_locks response now
  | timeout => exact .gives (call.url config) rfl rfl rfl
  | connectError => exact .gives (call.url config) rfl rfl rfl
  | otherError => exact .gives (call.url config) rfl rfl rfl

variable (crypto) in
theorem conclude_locks (response : Response) (signed : SignedManifest Manifest) (key : PublicKey) (now : Rat) :
    LockStep World.locked (Task.lock config) world (.verifying call response signed key) (conclude crypto config world call response signed key now).1
      (conclude crypto config world call response signed key now).2 := by
  have accepted : Released config world call (accept config world call response signed.manifest now : World Manifest × Task Manifest PublicKey) :=
    accept_released response signed.manifest now
  unfold conclude
  split
  · exact .gives (call.url config) rfl accepted.back accepted.without
  · exact .gives (call.url config) rfl rfl rfl
  · exact .gives (call.url config) rfl rfl rfl

theorem step_locks {task task' : Task Manifest PublicKey} {input : Input} (taken : step crypto config world task input = some (later,task')) :
    LockStep World.locked (Task.lock config) world task later task' := by
  unfold step at taken
  split at taken
  · cases taken
    split <;> exact .keeps rfl rfl
  · split at taken
    · cases taken
    · rename_i call now free
      exact lookUp_locks free (Option.some.inj taken)
  · rename_i call reply now
    have locks : LockStep World.locked (Task.lock config) world (.fetching call) _ _ := receive_locks crypto now reply
    rw [Option.some.inj taken] at locks
    exact locks
  · rename_i call response signed key now
    have locks : LockStep World.locked (Task.lock config) world (.verifying call response signed key) _ _ :=
      conclude_locks crypto response signed key now
    rw [Option.some.inj taken] at locks
    exact locks
  · cases taken
    exact .keeps rfl rfl
  · cases taken
    exact .keeps rfl rfl
  · cases taken
    exact .gives _ rfl rfl rfl
  · cases taken
    exact .gives _ rfl rfl rfl
  · cases taken

-- The lock of a URL is held exactly while one task fetches or verifies its manifest, whatever the peers answer.
theorem manifest_single_flight (crypto : Crypto Manifest PublicKey) (config : Config) (maxSize : Int)
    (moves : List (Move (Task Manifest PublicKey) Input)) (final : Machine (World Manifest) (Task Manifest PublicKey) Empty)
    (run : Runs (program crypto config).next (fun _ _ => True) (.init (World.init maxSize)) moves final) :
    (∀ url, url ∈ final.store.locked ↔ ∃ id task, final.tasks.get id = some task ∧ task.lock config = some url) ∧
    ∀ i j task other url, final.tasks.get i = some task → final.tasks.get j = some other → task.lock config = some url →
      other.lock config = some url → i = j := by
  have exclusive : Exclusive World.locked (Task.lock config) final :=
    (program crypto config).exclusive (fun _ _ => True)
      (fun task arrives => by
        cases task with
        | called call => rfl
        | _ => cases arrives)
      (fun s task input store task' events advanced => step_locks (advance_step advanced)) run (exclusive_init _ rfl)
  exact ⟨exclusive.held_iff,fun i j task other url => exclusive.sole i j task other url⟩
end Locking

end Client

structure Card where
  id : String
  deriving DecidableEq

def cardOf : Value → Option Card
  | .dict items =>
    match lookupItem "id" items with
    | some (.str id) => some ⟨id⟩
    | _ => none
  | _ => none

def blockOf : Value → Option SignatureBlock
  | .dict items =>
    match lookupItem "alg" items,lookupItem "signature" items with
    | some (.str alg),some (.str signature) => some {alg,signature}
    | _,_ => none
  | _ => none

def signedCardOf : Value → Option (SignedManifest Card)
  | .dict items =>
    match (lookupItem "manifest" items).bind cardOf,(lookupItem "signature" items).bind blockOf with
    | some manifest,some signature => some {manifest,signature}
    | _,_ => none
  | _ => none

-- The neutral point as a key: the signature with that point and the scalar 0 holds for every message.
def neutralPoint : List UInt8 := 1 :: List.replicate 31 0

def cards : Crypto Card (List UInt8) where
  validateManifest := cardOf
  validateSigned := signedCardOf
  canonicalize card := some (card.id.toList.map (fun c => UInt8.ofNat c.toNat))
  fromPublicBytes := some
  verify key raw _ := decide (key = neutralPoint ∧ raw = neutralPoint ++ List.replicate 32 0)

def agentUrl : String := "https://a/.well-known/asap/manifest.json"

def verifyingClient : Config where
  httpBaseUrl := "https://a"
  verifySignatures := true
  trustedManifestKeys := Dict.empty.set agentUrl ("AQAA" ++ String.ofList (List.replicate 39 'A') ++ "=")
  decimal c := if c.isDigit then some (c.toNat - '0'.toNat) else none

def plainBody : Value := .dict [(.str "id",.str "agent")]

def signedBody : Value := .dict [(.str "manifest",plainBody),
  (.str "signature",.dict [(.str "alg",.str "ed25519"),(.str "signature",.str ("AQAA" ++ String.ofList (List.replicate 82 'A') ++ "=="))])]

def Task.manifest {Manifest PublicKey : Type} : Task Manifest PublicKey → Option Manifest
  | .returned _ manifest => some manifest
  | _ => none

-- A signed manifest is fetched by `get_manifest` and found in the cache by `discover`.
def signedMoves : List (Move (Task Card (List UInt8)) Input) :=
  [.arrive 0 (.called (.getManifest none)),.proceed 0 (.start true),.proceed 0 (.acquire 0),
   .proceed 0 (.reply (.response ⟨200,none,some signedBody⟩) 1),.arrive 1 (.called (.discover "https://a/")),.proceed 1 (.start true),
   .proceed 0 (.verified 2),.proceed 1 (.acquire 3)]

def plainMoves : List (Move (Task Card (List UInt8)) Input) :=
  [.arrive 0 (.called (.discover "https://a/")),.proceed 0 (.start true),.proceed 0 (.acquire 0),
   .proceed 0 (.reply (.response ⟨200,none,some plainBody⟩) 1)]

def ran (moves : List (Move (Task Card (List UInt8)) Input)) : Option (Machine (World Card) (Task Card (List UInt8)) Empty) :=
  execute (program cards verifyingClient).next anyMove (.init (World.init 1000)) moves

theorem ran_runs (moves : List (Move (Task Card (List UInt8)) Input)) (done : (ran moves).isSome = true) :
    Runs (program cards verifyingClient).next (fun _ _ => True) (.init (World.init 1000)) moves ((ran moves).get done) :=
  execute_free (Option.some_get done).symm

theorem signedMoves_done : (ran signedMoves).isSome = true := by decide +kernel

theorem plainMoves_done : (ran plainMoves).isSome = true := by decide +kernel

theorem manifests_signed_sample : verifyingClient.verifySignatures = true ∧ ∃ final,
    Runs (program cards verifyingClient).next (fun _ _ => True) (.init (World.init 1000)) signedMoves final ∧
    (final.tasks.get 1).bind Task.manifest = some ⟨"agent"⟩ ∧
    (∀ url manifest, final.store.cache.Holds url manifest → Obtained cards verifyingClient final.store url manifest) ∧
    (∀ id call manifest, final.tasks.get id = some (.returned call manifest) →
      Obtained cards verifyingClient final.store (call.url verifyingClient) manifest) := by
  have run := ran_runs signedMoves signedMoves_done
  refine ⟨rfl,_,run,by decide +kernel,?_⟩
  exact manifests_signed_or_plain cards verifyingClient rfl 1000 signedMoves _ run

theorem manifest_single_flight_sample : ∃ final,
    Runs (program cards verifyingClient).next (fun _ _ => True) (.init (World.init 1000)) signedMoves final ∧
    (∀ url, url ∈ final.store.locked ↔ ∃ id task, final.tasks.get id = some task ∧ task.lock verifyingClient = some url) ∧
    ∀ i j task other url, final.tasks.get i = some task → final.tasks.get j = some other → task.lock verifyingClient = some url →
      other.lock verifyingClient = some url → i = j :=
  ⟨_,ran_runs signedMoves signedMoves_done,manifest_single_flight cards verifyingClient 1000 signedMoves _ (ran_runs signedMoves signedMoves_done)⟩

-- The peer leaves the envelope away: its plain manifest is returned and cached, trusted key or not.
theorem manifest_downgraded : verifyingClient.verifySignatures = true ∧ (verifyingClient.trustedManifestKeys.get agentUrl).isSome = true ∧
    ∃ final, Runs (program cards verifyingClient).next (fun _ _ => True) (.init (World.init 1000)) plainMoves final ∧
      (final.tasks.get 0).bind Task.manifest = some ⟨"agent"⟩ ∧ final.store.cache.Holds agentUrl ⟨"agent"⟩ ∧
      ¬ ∃ body, Served final.store agentUrl body ∧ SignedFor cards verifyingClient agentUrl body ⟨"agent"⟩ := by
  refine ⟨rfl,by decide +kernel,_,ran_runs plainMoves plainMoves_done,by decide +kernel,?_,?_⟩
  · have stored : ((((ran plainMoves).get plainMoves_done).store.cache.cache.get agentUrl).map CacheEntry.manifest) = some ⟨"agent"⟩ := by
      decide +kernel
    exact Option.map_eq_some_iff.mp stored
  · have unsigned : ∀ answer ∈ ((ran plainMoves).get plainMoves_done).store.served, answer.2.json.any isSigned = false := by decide +kernel
    rintro ⟨body,⟨response,member,-,decoded⟩,_,_,_,shaped,-⟩
    have plain := unsigned _ member
    rw [decoded,Option.any_some,shaped] at plain
    cases plain

end Asap.Discovery
