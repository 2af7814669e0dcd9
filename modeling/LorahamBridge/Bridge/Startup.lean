import LorahamBridge.Foundation.Strtoul
import LorahamBridge.Loraham.PosixTransport
import LorahamBridge.Xr.Deadlines

/-!
# Starting the bridge

The command line, the password file and the choice of the backend, up to the point where
the server listens.  Everything that is wrong here ends the process before it serves a
client.  This file embeds `main`, the password file of `hmac_auth`, and the socket paths of
`loraham_posix_transport`.

A path or an address is a byte string without zero bytes, as the arguments of a process
are.  What the file system and the network answer is given by a `Host`.

Main results:

- Theorem `parseArgs_ok_iff`: which command lines are accepted.
- Theorem `numericArgument_iff`: which numbers are.
- Theorem `fromPasswordFile_eq`: the password does not depend on how the file is read.
- Theorem `main_started`: what is known about a bridge that has started.
-/

namespace LorahamBridge

open Foundation Loraham

/-! ## The command line -/

/-- What the command line sets. -/
structure Options where
  bindAddr : Bytes
  port : UInt16
  passwordFile : Bytes
  backendName : Bytes
  rflogOn : Bool
  rflogPath : Bytes
  dataSocket : Bytes
  confSocket : Bytes
  timeouts : Timeouts

/-- The options of a command line without arguments. -/
def defaultOptions : Options where
  bindAddr := ascii "127.0.0.1"
  port := 7000
  passwordFile := []
  backendName := ascii "fake"
  rflogOn := false
  rflogPath := []
  dataSocket := []
  confSocket := []
  timeouts := defaultTimeouts

/-- How the process ends before it has started: its exit code, what it prints, and whether
the usage text follows. -/
structure Exit where
  code : Nat
  message : Bytes
  usage : Bool
deriving DecidableEq

/-- The options that take a value. -/
inductive Flag where
  | bind
  | port
  | passwordFile
  | backend
  | rflog
  | rflogPath
  | dataSocket
  | confSocket
  | pingIntervalMs
  | pongTimeoutMs
deriving DecidableEq

namespace Flag

/-- The option as it is written. -/
def name : Flag → Bytes
  | .bind => ascii "--bind"
  | .port => ascii "--port"
  | .passwordFile => ascii "--password-file"
  | .backend => ascii "--backend"
  | .rflog => ascii "--rflog"
  | .rflogPath => ascii "--rflog-path"
  | .dataSocket => ascii "--data-socket"
  | .confSocket => ascii "--conf-socket"
  | .pingIntervalMs => ascii "--ping-interval-ms"
  | .pongTimeoutMs => ascii "--pong-timeout-ms"

/-- The options that take a value, in the order in which they are compared. -/
def all : List Flag :=
  [.bind, .port, .passwordFile, .backend, .rflog, .rflogPath, .dataSocket, .confSocket,
    .pingIntervalMs, .pongTimeoutMs]

/-- The option an argument names. -/
def ofName? (a : Bytes) : Option Flag :=
  all.find? fun flag => a == flag.name

end Flag

/-- A number in a range, with nothing behind it. -/
def numericArgument (lo hi : Nat) (v : Bytes) : Option Nat :=
  let r := strtoul v
  if r.converted = false ∨ r.rest ≠ [] ∨ r.overflow = true ∨ r.value < lo ∨ hi < r.value then none
  else some r.value

/-- Empty if a path can name a local socket, else the reason. -/
def socketPathError (path : Bytes) : Bytes :=
  if path = [] then ascii "is empty"
  else if kSunPath ≤ path.length then
    ascii "is " ++ decimal path.length ++ ascii " bytes; a socket path must be shorter than " ++
      decimal kSunPath ++ ascii " bytes"
  else []

/-- A time out of range: the message names the option, and the usage follows. -/
def badTimeout (flag : Flag) : Exit :=
  ⟨2, ascii "error: " ++ flag.name ++ ascii " must be an integer in [1, 3600000]\n", true⟩

/-- A path that is no good for a socket: the message names the option and says why. -/
def badSocket (flag : Flag) (why : Bytes) : Exit :=
  ⟨2, ascii "error: " ++ flag.name ++ ascii " " ++ why ++ ascii "\n", false⟩

/-- One option with its value. -/
def Flag.set (v : Bytes) (o : Options) : Flag → Except Exit Options
  | .bind => .ok { o with bindAddr := v }
  | .port =>
      match numericArgument 0 65535 v with
      | none => .error ⟨2, ascii "error: --port must be an integer in [0, 65535]\n", false⟩
      | some p => .ok { o with port := p.toUInt16 }
  | .passwordFile => .ok { o with passwordFile := v }
  | .backend => .ok { o with backendName := v }
  | .rflog =>
      if v ≠ ascii "on" ∧ v ≠ ascii "off" then
        .error ⟨2, ascii "error: --rflog must be 'on' or 'off'\n", false⟩
      else .ok { o with rflogOn := v == ascii "on" }
  | .rflogPath => .ok { o with rflogPath := v }
  | .dataSocket =>
      if socketPathError v ≠ [] then .error (badSocket .dataSocket (socketPathError v))
      else .ok { o with dataSocket := v }
  | .confSocket =>
      if socketPathError v ≠ [] then .error (badSocket .confSocket (socketPathError v))
      else .ok { o with confSocket := v }
  | .pingIntervalMs =>
      match numericArgument 1 3600000 v with
      | none => .error (badTimeout .pingIntervalMs)
      | some p => .ok { o with timeouts := { o.timeouts with pingIntervalMs := p } }
  | .pongTimeoutMs =>
      match numericArgument 1 3600000 v with
      | none => .error (badTimeout .pongTimeoutMs)
      | some p => .ok { o with timeouts := { o.timeouts with pongTimeoutMs := p } }

/-- An argument that is no option with a value. -/
def otherArgument (version a : Bytes) : Exit :=
  if a = ascii "-v" ∨ a = ascii "--version" then
    ⟨0, ascii "meshcom-loraham-bridge " ++ version ++ ascii "\n", false⟩
  else if a = ascii "-h" ∨ a = ascii "--help" then ⟨0, [], true⟩
  else ⟨2, ascii "error: unknown argument '" ++ a ++ ascii "'\n", true⟩

/-- The arguments from left to right; the first that is wrong ends the program. -/
def parseArgs (version : Bytes) : List Bytes → Options → Except Exit Options
  | [], o => .ok o
  | a :: args, o =>
      match Flag.ofName? a with
      | none => .error (otherArgument version a)
      | some flag =>
          match args with
          | [] => .error ⟨2, ascii "error: " ++ flag.name ++ ascii " requires a value\n", false⟩
          | v :: args =>
              match flag.set v o with
              | .error exit => .error exit
              | .ok o => parseArgs version args o

/-- The two sockets of one radio come together, and need the backend that uses them. -/
def checkSockets (o : Options) : Option Exit :=
  if o.dataSocket.isEmpty ≠ o.confSocket.isEmpty then
    let missing := if o.dataSocket = [] then Flag.dataSocket else .confSocket
    let given := if o.dataSocket = [] then Flag.confSocket else .dataSocket
    some ⟨2, ascii "error: " ++ given.name ++ ascii " needs " ++ missing.name ++
      ascii " (both name one radio's sockets)\n", false⟩
  else if (o.dataSocket ≠ [] ∨ o.confSocket ≠ []) ∧ o.backendName ≠ ascii "loraham" then
    some ⟨2, ascii "error: --data-socket/--conf-socket need --backend loraham\n", false⟩
  else none

/-! ## The password file -/

/-- What reading a file delivers: its bytes read by read, and whether an error ended it. -/
structure FileRead where
  chunks : List Bytes
  readError : Bool
deriving DecidableEq

/-- A longer password file is refused. -/
def kMaxPasswordFileBytes : Nat := 4096

/-- Collect the reads up to the first that delivers nothing, unless they become too many. -/
def collect (data : Bytes) : List Bytes → Option Bytes
  | [] => some data
  | chunk :: chunks =>
      if chunk = [] then some data
      else if kMaxPasswordFileBytes < data.length + chunk.length then none
      else collect (data ++ chunk) chunks

/-- Remove one byte from the end if it is there. -/
def dropLastIf (c : UInt8) (data : Bytes) : Bytes :=
  if data.getLast? = some c then data.dropLast else data

/-- Strip a single newline, LF or CRLF, from the end. -/
def stripNewline (data : Bytes) : Bytes :=
  if data.getLast? = some 0x0A then dropLastIf 0x0D data.dropLast else data

/-- The password is the file without its last line end, and not empty. -/
def fromPasswordFile : Option FileRead → Except Bytes AuthConfig
  | none => .error (ascii "cannot open password file")
  | some file =>
      match collect [] file.chunks with
      | none => .error (ascii "password file too large")
      | some data =>
          if file.readError then .error (ascii "error reading password file")
          else if stripNewline data = [] then .error (ascii "password file is empty")
          else .ok ⟨stripNewline data⟩

/-! ## Socket paths of the daemon -/

/-- What the system answers while the bridge starts. -/
structure Host where
  isSocket : Bytes → Bool
  readFile : Bytes → Option FileRead
  openLog : Bytes → Option Bytes
  listen : Bytes → UInt16 → Option Bytes

/-- The socket of the service if there is one, else the one in `/tmp`. -/
def lorahamSockpath (host : Host) (runp tmpp : Bytes) : Bytes :=
  if host.isSocket runp then runp else tmpp

/-- The sockets of a daemon with the default names. -/
def defaultDaemonPaths (host : Host) : DaemonPaths where
  data433 := lorahamSockpath host (ascii "/run/loraham/lora433f.sock") (ascii "/tmp/lora433f.sock")
  conf433 :=
    lorahamSockpath host (ascii "/run/loraham/loraconf433.sock") (ascii "/tmp/loraconf433.sock")
  data868 := lorahamSockpath host (ascii "/run/loraham/lora868f.sock") (ascii "/tmp/lora868f.sock")
  conf868 :=
    lorahamSockpath host (ascii "/run/loraham/loraconf868.sock") (ascii "/tmp/loraconf868.sock")

/-- The sockets given on the command line, for either band, or the default ones. -/
def instanceDaemonPaths (host : Host) (dataSocket confSocket : Bytes) : DaemonPaths :=
  if dataSocket = [] ∨ confSocket = [] then defaultDaemonPaths host
  else ⟨dataSocket, confSocket, dataSocket, confSocket⟩

/-! ## Starting -/

/-- The backend the bridge is started with. -/
inductive BackendChoice where
  | fake
  | loraham (paths : DaemonPaths)

/-- A bridge that serves. -/
structure Started where
  bindAddr : Bytes
  port : UInt16
  auth : AuthConfig
  backend : BackendChoice
  timeouts : Timeouts
  maxOutbox : Nat
  rflog : Option Bytes

/-- The bound on the output queued for a client. -/
def kDefaultMaxOutbox : Nat := 64 * 1024

/-- Open mode without a password file. -/
def loadAuth (host : Host) (o : Options) : Except Exit AuthConfig :=
  if o.passwordFile = [] then .ok ⟨[]⟩
  else
    match fromPasswordFile (host.readFile o.passwordFile) with
    | .error err => .error ⟨1, ascii "error: " ++ err ++ ascii "\n", false⟩
    | .ok auth => .ok auth

/-- `rflog::open` takes absolute paths only. -/
def openRflog (host : Host) (path : Bytes) : Option Bytes :=
  if path.head? ≠ some 0x2F then some (ascii "--rflog-path must be an absolute path")
  else (host.openLog path).map fun why => ascii "cannot open RF log " ++ path ++ ascii ": " ++ why

/-- Open the RF log if it is turned on. -/
def startLog (host : Host) (o : Options) : Except Exit (Option Bytes) :=
  if !o.rflogOn then .ok none
  else if o.rflogPath = [] then
    .error ⟨2, ascii "error: --rflog on needs --rflog-path <absolute path>\n", false⟩
  else
    match openRflog host o.rflogPath with
    | some err => .error ⟨1, ascii "error: " ++ err ++ ascii "\n", false⟩
    | none => .ok (some o.rflogPath)

/-- The backend named on the command line. -/
def chooseBackend (host : Host) (o : Options) : Except Exit BackendChoice :=
  if o.backendName = ascii "fake" then .ok .fake
  else if o.backendName = ascii "loraham" then
    .ok (.loraham (instanceDaemonPaths host o.dataSocket o.confSocket))
  else
    .error ⟨2, ascii "error: unknown backend '" ++ o.backendName ++
      ascii "' (use 'fake' or 'loraham')\n", false⟩

/-- `main` up to the event loop. -/
def start (host : Host) (version : Bytes) (args : List Bytes) : Except Exit Started := do
  let o ← parseArgs version args defaultOptions
  match checkSockets o with
  | some exit => .error exit
  | none =>
      let auth ← loadAuth host o
      let rflog ← startLog host o
      let backend ← chooseBackend host o
      match host.listen o.bindAddr o.port with
      | some err => .error ⟨1, ascii "error: listen failed: " ++ err ++ ascii "\n", false⟩
      | none =>
          .ok
            { bindAddr := o.bindAddr
              port := o.port
              auth := auth
              backend := backend
              timeouts := o.timeouts
              maxOutbox := kDefaultMaxOutbox
              rflog := rflog }

/-! ## What is accepted -/

/-- The numbers an option accepts, described without the conversion: the value of the digits, or
its complement behind a minus sign. -/
theorem numericArgument_iff (lo hi n : Nat) (v : Bytes) :
    numericArgument lo hi v = some n ↔
      ∃ spaces sign number, v = spaces ++ (sign ++ number) ∧ IsNumber spaces sign number ∧
        digitsValue number ≤ ulongMax ∧ n = signedValue sign number ∧ lo ≤ n ∧ n ≤ hi := by
  have hstrtoul : numericArgument lo hi v = some n ↔
      strtoul v = ⟨n, [], true, false⟩ ∧ lo ≤ n ∧ n ≤ hi := by
    unfold numericArgument
    generalize strtoul v = r
    obtain ⟨value, rest, converted, overflow⟩ := r
    simp only [Strtoul.mk.injEq]
    constructor
    · intro h
      split at h
      · cases h
      · rename_i hgood
        obtain rfl := Option.some.inj h
        simp only [not_or, Bool.not_eq_false, Bool.not_eq_true, not_not, not_lt] at hgood
        exact ⟨⟨rfl, hgood.2.1, hgood.1, hgood.2.2.1⟩, hgood.2.2.2⟩
    · rintro ⟨⟨rfl, rfl, rfl, rfl⟩, hlo, hhi⟩
      rw [if_neg (by simp; omega)]
  rw [hstrtoul, strtoul_complete_iff]
  constructor
  · rintro ⟨⟨spaces, sign, number, hv, hnumber, hrange, hn⟩, hbounds⟩
    exact ⟨spaces, sign, number, hv, hnumber, hrange, hn, hbounds⟩
  · rintro ⟨spaces, sign, number, hv, hnumber, hrange, hn, hbounds⟩
    exact ⟨⟨spaces, sign, number, hv, hnumber, hrange, hn⟩, hbounds⟩

/-- Every option is found by its name. -/
theorem Flag.ofName?_name (flag : Flag) : ofName? flag.name = some flag := by
  cases flag <;> decide

/-- An argument that names an option is its name. -/
theorem Flag.name_of_ofName? {a : Bytes} {flag : Flag} (h : ofName? a = some flag) :
    a = flag.name := by
  simpa using List.find?_some h

/-- An option with its value, as it stands on the command line. -/
abbrev Setting : Type :=
  Flag × Bytes

/-- The two arguments of a setting. -/
def Setting.args (setting : Setting) : List Bytes :=
  [setting.1.name, setting.2]

/-- The options after some settings, the later ones over the earlier ones. -/
def Options.apply (o : Options) (settings : List Setting) : Except Exit Options :=
  settings.foldlM (fun o setting => setting.1.set setting.2 o) o

/-- Settings are applied from left to right. -/
theorem Options.apply_cons (o : Options) (setting : Setting) (settings : List Setting) :
    o.apply (setting :: settings) =
      match setting.1.set setting.2 o with
      | .error exit => .error exit
      | .ok o => o.apply settings := by
  unfold Options.apply
  rw [List.foldlM_cons]
  cases setting.1.set setting.2 o <;> rfl

/-- A command line is accepted exactly if it is a list of settings with good values. -/
theorem parseArgs_ok_iff (version : Bytes) (args : List Bytes) (o o' : Options) :
    parseArgs version args o = .ok o' ↔
      ∃ settings : List Setting, args = settings.flatMap Setting.args ∧
        o.apply settings = .ok o' := by
  constructor
  · fun_induction parseArgs version args o with
    | case1 o => exact fun h => ⟨[], rfl, h⟩
    | case2 | case3 | case4 => exact fun h => by cases h
    | case5 a o flag hflag v args o₁ hset ih =>
        intro h
        obtain ⟨settings, rfl, happly⟩ := ih h
        refine ⟨(flag, v) :: settings, ?_, ?_⟩
        · rw [Flag.name_of_ofName? hflag]
          rfl
        · rw [Options.apply_cons]
          simp only [hset]
          exact happly
  · rintro ⟨settings, rfl, happly⟩
    induction settings generalizing o with
    | nil => exact happly
    | cons setting settings ih =>
        rw [Options.apply_cons] at happly
        rw [List.flatMap_cons, Setting.args, List.cons_append, List.cons_append, List.nil_append,
          parseArgs, Flag.ofName?_name]
        simp only
        split at happly
        · cases happly
        · exact ih _ happly

/-! ## The password -/

/-- The bytes that are read: everything before a read that delivers nothing. -/
def FileRead.content (file : FileRead) : Bytes :=
  (file.chunks.takeWhile (· ≠ [])).flatten

/-- Reading stops at the end of the file and fails on more bytes than allowed. -/
theorem collect_eq (data : Bytes) (chunks : List Bytes) (hdata : data.length ≤ kMaxPasswordFileBytes) :
    collect data chunks =
      if kMaxPasswordFileBytes < (data ++ (chunks.takeWhile (· ≠ [])).flatten).length then none
      else some (data ++ (chunks.takeWhile (· ≠ [])).flatten) := by
  induction chunks generalizing data with
  | nil => simpa [collect] using hdata
  | cons chunk chunks ih =>
      rw [collect]
      split <;> rename_i hchunk
      · simp [hchunk, hdata]
      · rw [List.takeWhile_cons_of_pos (by simpa using hchunk), List.flatten_cons,
          ← List.append_assoc]
        split <;> rename_i hlarge
        · rw [if_pos]
          rw [List.length_append, List.length_append]
          omega
        · exact ih (data ++ chunk) (by rw [List.length_append]; omega)

/-- Reading the password depends on the bytes of the file only, not on how they arrive. -/
theorem fromPasswordFile_eq (file : FileRead) :
    fromPasswordFile (some file) =
      if kMaxPasswordFileBytes < file.content.length then .error (ascii "password file too large")
      else if file.readError = true then .error (ascii "error reading password file")
      else if stripNewline file.content = [] then .error (ascii "password file is empty")
      else .ok ⟨stripNewline file.content⟩ := by
  rw [fromPasswordFile, collect_eq [] file.chunks (Nat.zero_le _), List.nil_append,
    ← FileRead.content]
  by_cases hlarge : kMaxPasswordFileBytes < file.content.length
  · rw [if_pos hlarge, if_pos hlarge]
  · rw [if_neg hlarge, if_neg hlarge]

/-- Without its line end the text is not longer. -/
theorem stripNewline_length_le (data : Bytes) : (stripNewline data).length ≤ data.length := by
  unfold stripNewline dropLastIf
  split
  · split
    · simp only [List.length_dropLast]
      omega
    · simp
  · exact le_rfl

/-- A password read from a file is there, and not too long. -/
theorem fromPasswordFile_ok {file : Option FileRead} {auth : AuthConfig}
    (h : fromPasswordFile file = .ok auth) :
    auth.passwordConfigured = true ∧ auth.password.length ≤ kMaxPasswordFileBytes := by
  cases file with
  | none => cases h
  | some file =>
      rw [fromPasswordFile_eq] at h
      split at h
      · cases h
      · split at h
        · cases h
        · split at h <;> rename_i hempty
          · cases h
          · cases h
            refine ⟨by simpa [AuthConfig.passwordConfigured] using hempty, ?_⟩
            exact (stripNewline_length_le _).trans (by omega)

/-! ## What has started -/

/-- A path that can be an address. -/
def ValidPath (path : Bytes) : Prop :=
  path ≠ [] ∧ path.length < kSunPath

/-- Options that a command line can leave. -/
structure Options.Valid (o : Options) : Prop where
  positive : o.timeouts.Positive
  range : ∀ now, now + 3600000 < uint64Max → o.timeouts.Fits now
  data : o.dataSocket = [] ∨ ValidPath o.dataSocket
  conf : o.confSocket = [] ∨ ValidPath o.confSocket

/-- The defaults pass all checks. -/
theorem defaultOptions_valid : defaultOptions.Valid where
  positive := ⟨by decide, by decide, by decide, by decide, by decide, by decide⟩
  range now h := by
    constructor <;> simp only [defaultOptions, defaultTimeouts] <;> omega
  data := Or.inl rfl
  conf := Or.inl rfl

/-- A path without complaint is usable. -/
theorem validPath_of_socketPathError {path : Bytes} (h : socketPathError path = []) :
    ValidPath path := by
  unfold socketPathError at h
  split at h
  · simp [ascii] at h
  · split at h
    · simp [ascii] at h
    · exact ⟨by assumption, by omega⟩

/-- An accepted number is in its range. -/
theorem numericArgument_bounds {lo hi n : Nat} {v : Bytes} (h : numericArgument lo hi v = some n) :
    lo ≤ n ∧ n ≤ hi := by
  obtain ⟨-, -, -, -, -, -, -, hbounds⟩ := (numericArgument_iff lo hi n v).mp h
  exact hbounds

/-- One setting keeps the options valid. -/
theorem Options.Valid.set {o o' : Options} (h : o.Valid) {flag : Flag} {v : Bytes}
    (hset : flag.set v o = .ok o') : o'.Valid := by
  cases flag with
  | bind | passwordFile | backend | rflogPath =>
      cases hset
      exact ⟨h.positive, h.range, h.data, h.conf⟩
  | port =>
      simp only [Flag.set] at hset
      split at hset
      · cases hset
      · cases hset
        exact ⟨h.positive, h.range, h.data, h.conf⟩
  | rflog =>
      simp only [Flag.set] at hset
      split at hset
      · cases hset
      · cases hset
        exact ⟨h.positive, h.range, h.data, h.conf⟩
  | dataSocket =>
      simp only [Flag.set] at hset
      split at hset <;> rename_i herror
      · cases hset
      · cases hset
        exact ⟨h.positive, h.range, Or.inr (validPath_of_socketPathError (not_not.mp herror)),
          h.conf⟩
  | confSocket =>
      simp only [Flag.set] at hset
      split at hset <;> rename_i herror
      · cases hset
      · cases hset
        exact ⟨h.positive, h.range, h.data,
          Or.inr (validPath_of_socketPathError (not_not.mp herror))⟩
  | pingIntervalMs =>
      simp only [Flag.set] at hset
      split at hset <;> rename_i p hp
      · cases hset
      · cases hset
        obtain ⟨hlo, hhi⟩ := numericArgument_bounds hp
        obtain ⟨h₁, h₂, h₃, h₄, -, h₆⟩ := h.positive
        refine ⟨⟨h₁, h₂, h₃, h₄, hlo, h₆⟩, fun now hnow => ?_, h.data, h.conf⟩
        obtain ⟨h₁, h₂, h₃, h₄, -, h₆⟩ := h.range now hnow
        exact ⟨h₁, h₂, h₃, h₄, by simp only; omega, h₆⟩
  | pongTimeoutMs =>
      simp only [Flag.set] at hset
      split at hset <;> rename_i p hp
      · cases hset
      · cases hset
        obtain ⟨hlo, hhi⟩ := numericArgument_bounds hp
        obtain ⟨h₁, h₂, h₃, h₄, h₅, -⟩ := h.positive
        refine ⟨⟨h₁, h₂, h₃, h₄, h₅, hlo⟩, fun now hnow => ?_, h.data, h.conf⟩
        obtain ⟨h₁, h₂, h₃, h₄, h₅, -⟩ := h.range now hnow
        exact ⟨h₁, h₂, h₃, h₄, h₅, by simp only; omega⟩

theorem Options.Valid.apply {o o' : Options} (h : o.Valid) (settings : List Setting)
    (happly : o.apply settings = .ok o') : o'.Valid := by
  induction settings generalizing o with
  | nil =>
      cases happly
      exact h
  | cons setting settings ih =>
      rw [Options.apply_cons] at happly
      split at happly
      · cases happly
      · rename_i o₁ hset
        exact ih (h.set hset) happly

/-- Every socket path of the backend can be an address. -/
def BackendChoice.Addressable : BackendChoice → Prop
  | .fake => True
  | .loraham paths => ∀ band, ValidPath (paths.data band) ∧ ValidPath (paths.conf band)

/-- Either choice is usable if both are. -/
theorem validPath_lorahamSockpath (host : Host) {runp tmpp : Bytes} (hrun : ValidPath runp)
    (htmp : ValidPath tmpp) : ValidPath (lorahamSockpath host runp tmpp) := by
  unfold lorahamSockpath
  split
  · exact hrun
  · exact htmp

theorem validPath_ascii (text : String) (hne : text.toList ≠ [])
    (hlength : text.toList.length < kSunPath) : ValidPath (ascii text) := by
  simpa [ValidPath, ascii] using And.intro hne hlength

/-- The paths of valid options can be connected to. -/
theorem addressable_instanceDaemonPaths (host : Host) {o : Options} (h : o.Valid) :
    (BackendChoice.loraham (instanceDaemonPaths host o.dataSocket o.confSocket)).Addressable := by
  unfold instanceDaemonPaths
  split <;> rename_i hempty
  · intro band
    cases band <;> constructor <;>
      exact validPath_lorahamSockpath host (validPath_ascii _ (by decide) (by decide))
        (validPath_ascii _ (by decide) (by decide))
  · rw [not_or] at hempty
    have hdata := h.data.resolve_left hempty.1
    have hconf := h.conf.resolve_left hempty.2
    intro band
    cases band <;> exact ⟨hdata, hconf⟩

/-- There is a password exactly if a file was named, and it is not longer than a password file
may be. -/
theorem loadAuth_ok {host : Host} {o : Options} {auth : AuthConfig}
    (h : loadAuth host o = .ok auth) :
    (auth.passwordConfigured = true ↔ o.passwordFile ≠ []) ∧
      auth.password.length ≤ kMaxPasswordFileBytes := by
  unfold loadAuth at h
  split at h <;> rename_i hfile
  · cases h
    exact ⟨by simp [AuthConfig.passwordConfigured, hfile], Nat.zero_le _⟩
  · split at h
    · cases h
    · rename_i hread
      cases h
      obtain ⟨hconfigured, hlength⟩ := fromPasswordFile_ok hread
      exact ⟨by simp [hconfigured, hfile], hlength⟩

/-- The log that is opened is the one that was asked for, with an absolute path. -/
theorem startLog_ok {host : Host} {o : Options} {rflog : Option Bytes}
    (h : startLog host o = .ok rflog) :
    rflog = (if o.rflogOn then some o.rflogPath else none) ∧
      (o.rflogOn = true → o.rflogPath.head? = some 0x2F) := by
  unfold startLog at h
  split at h <;> rename_i hon
  · cases h
    simp_all
  · split at h
    · cases h
    · split at h <;> rename_i hopen
      · cases h
      · cases h
        have hon : o.rflogOn = true := by simpa using hon
        refine ⟨by rw [if_pos hon], fun _ => ?_⟩
        unfold openRflog at hopen
        split at hopen <;> rename_i hslash
        · cases hopen
        · exact not_not.mp hslash

/-- Sockets that pass the check are given both or neither, and only for the LoRaHAM backend. -/
theorem checkSockets_none {o : Options} (h : checkSockets o = none) :
    (o.dataSocket = [] ↔ o.confSocket = []) ∧
      (o.dataSocket ≠ [] → o.backendName = ascii "loraham") := by
  unfold checkSockets at h
  split at h <;> rename_i hboth
  · cases h
  · split at h <;> rename_i hbackend
    · cases h
    · have hiff : o.dataSocket = [] ↔ o.confSocket = [] := by
        have heq := not_not.mp hboth
        rw [← List.isEmpty_iff, heq, List.isEmpty_iff]
      refine ⟨hiff, fun hdata => ?_⟩
      by_contra hname
      exact hbackend ⟨Or.inl hdata, hname⟩

/-- The backend that is chosen can be reached at the paths that were given. -/
theorem chooseBackend_ok {host : Host} {o : Options} {backend : BackendChoice} (hvalid : o.Valid)
    (h : chooseBackend host o = .ok backend) :
    backend.Addressable ∧ (o.backendName = ascii "loraham" →
      backend = .loraham (instanceDaemonPaths host o.dataSocket o.confSocket)) := by
  unfold chooseBackend at h
  split at h <;> rename_i hfake
  · cases h
    refine ⟨trivial, fun hname => ?_⟩
    have hdiffer : ascii "fake" ≠ ascii "loraham" := by decide
    exact absurd (hfake.symm.trans hname) hdiffer
  · split at h
    · cases h
      exact ⟨addressable_instanceDaemonPaths host hvalid, fun _ => rfl⟩
    · cases h

/-- A bridge serves only if every argument was an option with a good value.  It then has
timers that can expire and do not wrap for a clock below the last hour, a password exactly
if a password file was named, the daemon sockets that were named, both or neither, all of
them with usable paths, and an RF log with an absolute path exactly if it was turned on. -/
theorem main_started {host : Host} {version : Bytes} {args : List Bytes} {st : Started}
    (h : start host version args = .ok st) :
    ∃ (settings : List Setting) (o : Options), args = settings.flatMap Setting.args ∧
      defaultOptions.apply settings = .ok o ∧
      st.timeouts.Positive ∧ (∀ now, now + 3600000 < uint64Max → st.timeouts.Fits now) ∧
      (st.auth.passwordConfigured = true ↔ o.passwordFile ≠ []) ∧
      st.auth.password.length ≤ kMaxPasswordFileBytes ∧
      st.backend.Addressable ∧ (o.dataSocket = [] ↔ o.confSocket = []) ∧
      (o.dataSocket ≠ [] → st.backend =
        .loraham ⟨o.dataSocket, o.confSocket, o.dataSocket, o.confSocket⟩) ∧
      st.rflog = (if o.rflogOn then some o.rflogPath else none) ∧
      (o.rflogOn = true → o.rflogPath.head? = some 0x2F) := by
  unfold start at h
  cases hparse : parseArgs version args defaultOptions with
  | error exit => simp [hparse, bind, Except.bind] at h
  | ok o =>
      obtain ⟨settings, hargs, happly⟩ := (parseArgs_ok_iff version args _ o).mp hparse
      have hvalid := defaultOptions_valid.apply settings happly
      simp only [hparse, bind, Except.bind] at h
      split at h <;> rename_i hsockets
      · cases h
      · obtain ⟨hpair, hname⟩ := checkSockets_none hsockets
        split at h <;> rename_i hauth
        · cases h
        · split at h <;> rename_i hlog
          · cases h
          · split at h <;> rename_i hbackend
            · cases h
            · split at h
              · cases h
              · cases h
                obtain ⟨hpassword, hlength⟩ := loadAuth_ok hauth
                obtain ⟨hrflog, habsolute⟩ := startLog_ok hlog
                obtain ⟨haddressable, hchosen⟩ := chooseBackend_ok hvalid hbackend
                refine ⟨settings, o, hargs, happly, hvalid.positive, hvalid.range, hpassword,
                  hlength, ?_, hpair, ?_, hrflog, habsolute⟩
                · exact haddressable
                · intro hdata
                  rw [hchosen (hname hdata), instanceDaemonPaths,
                    if_neg (not_or.mpr ⟨hdata, mt hpair.mpr hdata⟩)]

/-- A host with a password file and free ports. -/
def plainHost : Host where
  isSocket _ := false
  readFile _ := some ⟨[ascii "se", ascii "cret\r\n"], false⟩
  openLog _ := none
  listen _ _ := none

/-- A start with a password file and a time with blanks and a sign before it. -/
theorem main_started_password :
    ∃ st, start plainHost [] [ascii "--password-file", ascii "p", ascii "--pong-timeout-ms",
        ascii " +20000"] = .ok st ∧
      st.auth.password = ascii "secret" ∧ st.timeouts.pongTimeoutMs = 20000 ∧
      st.timeouts.Positive := by
  obtain ⟨st, hst, hpassword, hpong⟩ : ∃ st, start plainHost [] [ascii "--password-file", ascii "p",
      ascii "--pong-timeout-ms", ascii " +20000"] = .ok st ∧
      st.auth.password = ascii "secret" ∧ st.timeouts.pongTimeoutMs = 20000 :=
    ⟨_, rfl, by decide +kernel, by decide +kernel⟩
  obtain ⟨settings, o, -, -, hpositive, -⟩ := main_started hst
  exact ⟨st, hst, hpassword, hpong, hpositive⟩

/-- The range of a numeric option. -/
def Flag.range : Flag → Option (Nat × Nat)
  | .port => some (0, 65535)
  | .pingIntervalMs | .pongTimeoutMs => some (1, 3600000)
  | _ => none

/-- A numeric option takes exactly the numbers in its range, with white space and a sign in
front of them, where a minus sign means the complement in 64 bits. -/
theorem numeric_option_iff {flag : Flag} {lo hi : Nat} (hflag : flag.range = some (lo, hi))
    (v : Bytes) (o : Options) :
    (∃ o', flag.set v o = .ok o') ↔
      ∃ spaces sign number, v = spaces ++ (sign ++ number) ∧ IsNumber spaces sign number ∧
        digitsValue number ≤ ulongMax ∧ lo ≤ signedValue sign number ∧
        signedValue sign number ≤ hi := by
  have hset : (∃ o', flag.set v o = .ok o') ↔ ∃ n, numericArgument lo hi v = some n := by
    cases flag with
    | port | pingIntervalMs | pongTimeoutMs =>
        cases hflag
        simp only [Flag.set]
        split <;> simp_all
    | _ => cases hflag
  rw [hset]
  constructor
  · rintro ⟨n, hn⟩
    obtain ⟨spaces, sign, number, hv, hnumber, hrange, rfl, hbounds⟩ :=
      (numericArgument_iff lo hi n v).mp hn
    exact ⟨spaces, sign, number, hv, hnumber, hrange, hbounds⟩
  · rintro ⟨spaces, sign, number, hv, hnumber, hrange, hbounds⟩
    exact ⟨_, (numericArgument_iff lo hi _ v).mpr
      ⟨spaces, sign, number, hv, hnumber, hrange, rfl, hbounds⟩⟩

/-- A large negative number that is taken as the port 7000. -/
theorem numeric_option_iff_negative :
    ∃ o', Flag.set (ascii "-18446744073709544616") defaultOptions .port = .ok o' :=
  (numeric_option_iff rfl _ defaultOptions).mpr
    ⟨[], [0x2D], ascii "18446744073709544616", by decide +kernel,
      ⟨by simp, Or.inr (Or.inr rfl), by decide +kernel, by decide +kernel⟩, by decide +kernel,
      by decide +kernel, by decide +kernel⟩

end LorahamBridge
