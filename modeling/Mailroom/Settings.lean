import Mailroom.Value

/-!
The discrete settings that a session is made from. They may have values of any kind; only making a
session looks at them closely. Timeouts are in milliseconds.
-/

namespace Mailroom

inductive Setting
  | hostName
  | smtpPort
  | sslOnConnect
  | socketTimeout
  | socketConnectionTimeout
  | startTlsEnabled
  | startTlsRequired
  | sslCheckServerIdentity
  | bounceAddress
  | username
  | password
  | debug
  deriving DecidableEq, Repr

namespace Setting

def name : Setting → String
  | hostName => "host_name"
  | smtpPort => "smtp_port"
  | sslOnConnect => "ssl_on_connect"
  | socketTimeout => "socket_timeout"
  | socketConnectionTimeout => "socket_connection_timeout"
  | startTlsEnabled => "start_tls_enabled"
  | startTlsRequired => "start_tls_required"
  | sslCheckServerIdentity => "ssl_check_server_identity"
  | bounceAddress => "bounce_address"
  | username => "username"
  | password => "password"
  | debug => "debug"

def all : List Setting :=
  [hostName, smtpPort, sslOnConnect, socketTimeout, socketConnectionTimeout, startTlsEnabled,
    startTlsRequired, sslCheckServerIdentity, bounceAddress, username, password, debug]

def ofName? (s : String) : Option Setting := all.find? fun setting => setting.name == s

end Setting

structure Settings where
  hostName : Value
  smtpPort : Value
  sslOnConnect : Value
  socketTimeout : Value
  socketConnectionTimeout : Value
  startTlsEnabled : Value
  startTlsRequired : Value
  sslCheckServerIdentity : Value
  bounceAddress : Value
  username : Value
  password : Value
  debug : Value

namespace Settings

/-- Nothing is set, and everything that can be switched is off. -/
def initial : Settings where
  hostName := .nothing
  smtpPort := .nothing
  sslOnConnect := .bool false
  socketTimeout := .nothing
  socketConnectionTimeout := .nothing
  startTlsEnabled := .bool false
  startTlsRequired := .bool false
  sslCheckServerIdentity := .bool false
  bounceAddress := .nothing
  username := .nothing
  password := .nothing
  debug := .bool false

def get (c : Settings) : Setting → Value
  | .hostName => c.hostName
  | .smtpPort => c.smtpPort
  | .sslOnConnect => c.sslOnConnect
  | .socketTimeout => c.socketTimeout
  | .socketConnectionTimeout => c.socketConnectionTimeout
  | .startTlsEnabled => c.startTlsEnabled
  | .startTlsRequired => c.startTlsRequired
  | .sslCheckServerIdentity => c.sslCheckServerIdentity
  | .bounceAddress => c.bounceAddress
  | .username => c.username
  | .password => c.password
  | .debug => c.debug

def set (setting : Setting) (v : Value) (c : Settings) : Settings :=
  match setting with
  | .hostName => { c with hostName := v }
  | .smtpPort => { c with smtpPort := v }
  | .sslOnConnect => { c with sslOnConnect := v }
  | .socketTimeout => { c with socketTimeout := v }
  | .socketConnectionTimeout => { c with socketConnectionTimeout := v }
  | .startTlsEnabled => { c with startTlsEnabled := v }
  | .startTlsRequired => { c with startTlsRequired := v }
  | .sslCheckServerIdentity => { c with sslCheckServerIdentity := v }
  | .bounceAddress => { c with bounceAddress := v }
  | .username => { c with username := v }
  | .password => { c with password := v }
  | .debug => { c with debug := v }

@[simp] theorem get_set_self (c : Settings) (s : Setting) (v : Value) : (c.set s v).get s = v := by
  cases s <;> rfl

@[simp] theorem get_set_of_ne (c : Settings) {s t : Setting} (v : Value) (h : t ≠ s) :
    (c.set s v).get t = c.get t := by
  cases s <;> cases t <;> first | rfl | exact absurd rfl h

/-- Settings are the same if each of them is. -/
theorem eq_of_get {c d : Settings} (h : ∀ setting, c.get setting = d.get setting) : c = d := by
  cases c
  cases d
  simp only [mk.injEq]
  exact ⟨h .hostName, h .smtpPort, h .sslOnConnect, h .socketTimeout, h .socketConnectionTimeout,
    h .startTlsEnabled, h .startTlsRequired, h .sslCheckServerIdentity, h .bounceAddress,
    h .username, h .password, h .debug⟩

/-- What a name that is no setting's does among settings given by name. The name of the settings
themselves is taken. -/
def nameFault (name : String) : Fault :=
  if name == "self" then .kind (.repeatedArgument "SessionConfig.__init__" name)
  else .kind (.unknownSetting name)

/-- Settings given by name; the first name that is no setting is the fault. -/
def ofNamed (given : List (String × Value)) : Except Fault Settings :=
  given.foldlM (fun c entry =>
    match Setting.ofName? entry.1 with
    | some setting => .ok (c.set setting entry.2)
    | none => .error (nameFault entry.1)) initial

/-- The form in which settings show up inside other texts. -/
def shown (c : Settings) : Except Fault String := do
  let host ← c.hostName.shown
  let port ← c.smtpPort.shown
  return "<SessionConfig host_name=" ++ host ++ " smtp_port=" ++ port ++ ">"

end Settings

end Mailroom
