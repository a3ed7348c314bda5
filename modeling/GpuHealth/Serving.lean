/-
The HTTP child from its fork to its exit: the child's branch of `spawn_http_child` (`src/main.c`), `procpriv_child_setup`
(`src/procpriv.c`), and `http_child_tls_init`, `bind_listen`, `http_child_run`, `http_accept_loop`, `tls_wrap_client` and
`conn_close` of `src/http.c`.

A run is the list of what the child does (`ChildAct`): files it opens, the filter it installs, what it does with
descriptors and with the TLS context of a connection, and the calls that move bytes of a request or a response.
`ChildEnv` is what the calls of the start answer, and a `LoopOp` is one round of the accept loop, or a round of the
receiver thread, or the moment at which `g_running` is cleared. A list of them that ends is a child that still runs.

What is in the bytes is in `HttpConn` and `TlsConn`. A handshake that repeats WANT for ever is a loop that has not ended.
-/
import GpuHealth.Core.Ledger
import GpuHealth.HttpChild

namespace GpuHealth.Serving

open GpuHealth.HttpChild GpuHealth.Ledger

inductive Handle where
  | fd (n : ℤ)
  /-- `conn.ssl` -/
  | ssl
deriving DecidableEq, Repr

inductive ChildAct where
  | on (a : Act Handle)
  | openFile (path : CStr)
  | installFilter
  /-- a call of `conn_read` or `conn_write`, through TLS or in the clear -/
  | transfer (tls : Bool)
deriving DecidableEq, Repr

/-! ## A connection -/

/-- `conn_t`; `net.fd` is `fd` while TLS is active -/
structure Conn where
  fd : ℤ
  tlsActive : Bool
deriving DecidableEq, Repr

/-- one client, and what the calls on its connection answer -/
structure Client where
  fd : ℤ
  sslSetup : ℤ
  /-- the results of `mbedtls_ssl_handshake`: WANT so many times, then this one -/
  wants : ℕ
  handshake : ℤ
  /-- the calls of `conn_read`, and whether `read_request_line` returns 0 -/
  reads : ℕ
  parsed : Bool
  /-- the calls of `conn_write` -/
  writes : ℕ
deriving DecidableEq, Repr

/-- one step of the handshake -/
def handshakeStep (c : Conn) : List ChildAct := [.on (.use .ssl), .on (.use (.fd c.fd))]

def tlsWrapClient (c : Conn) (a : Client) : Conn × ℤ × List ChildAct :=
  let (ret, calls) :=
    -- `mbedtls_ssl_set_bio`, then the handshake
    if a.sslSetup = 0 then (a.handshake, .on (.use .ssl) :: (List.replicate (a.wants + 1) (handshakeStep c)).flatten)
    else (a.sslSetup, [])
  let begun : List ChildAct := [.on (.acquire .ssl), .on (.use .ssl)]
  if ret ≠ 0 then (c, -1, begun ++ calls ++ [.on (.release .ssl)])
  else ({ c with tlsActive := true }, 0, begun ++ calls)

/-- one call of `conn_read` or `conn_write` -/
def connCall (c : Conn) : List ChildAct :=
  if c.tlsActive then [.on (.use .ssl), .on (.use (.fd c.fd)), .transfer true]
  else [.on (.use (.fd c.fd)), .transfer false]

def connClose (c : Conn) : Conn × List ChildAct :=
  if c.tlsActive then
    -- close_notify is sent before the context is freed; `mbedtls_net_free` closes the descriptor
    (⟨-1, false⟩, [.on (.use .ssl), .on (.use (.fd c.fd)), .on (.release .ssl), .on (.release (.fd c.fd))])
  else if c.fd ≥ 0 then (⟨-1, false⟩, [.on (.release (.fd c.fd))])
  else (c, [])

/-- the request, and the response if there is a request line -/
def connTalk (c : Conn) (a : Client) : List ChildAct :=
  (List.replicate a.reads (connCall c)).flatten ++
    if a.parsed then (List.replicate a.writes (connCall c)).flatten else []

/-- what a round does with an accepted client -/
def serveClient (tlsEnabled : Bool) (a : Client) : List ChildAct :=
  let conn : Conn := ⟨a.fd, false⟩
  let accepted : List ChildAct := [.on (.acquire (.fd a.fd)), .on (.use (.fd a.fd)), .on (.use (.fd a.fd))]
  if tlsEnabled then
    let (conn, ret, wrap) := tlsWrapClient conn a
    if ret < 0 then accepted ++ wrap ++ (connClose conn).2
    else accepted ++ wrap ++ connTalk conn a ++ (connClose conn).2
  else accepted ++ connTalk conn a ++ (connClose conn).2

/-! ## The accept loop -/

inductive LoopOp where
  /-- `select` fails, with `EINTR` or not -/
  | selectError (eintr : Bool)
  | timeout
  | acceptError
  | client (a : Client)
  /-- a round of the receiver thread -/
  | receive
  /-- SIGTERM, or the end of the receiver thread -/
  | stop
deriving DecidableEq, Repr

/-- what is done, and whether the loop is left -/
def httpAcceptLoop (tlsEnabled : Bool) (ipcFd listenFd : ℤ) : List LoopOp → List ChildAct × Bool
  | [] => ([], false)
  | .stop :: _ => ([], true)
  | .receive :: ops =>
    let (acts, left) := httpAcceptLoop tlsEnabled ipcFd listenFd ops
    (.on (.use (.fd ipcFd)) :: acts, left)
  | .selectError eintr :: ops =>
    if eintr then
      let (acts, left) := httpAcceptLoop tlsEnabled ipcFd listenFd ops
      (.on (.use (.fd listenFd)) :: acts, left)
    else ([.on (.use (.fd listenFd))], true)
  | .timeout :: ops =>
    let (acts, left) := httpAcceptLoop tlsEnabled ipcFd listenFd ops
    (.on (.use (.fd listenFd)) :: acts, left)
  | .acceptError :: ops =>
    let (acts, left) := httpAcceptLoop tlsEnabled ipcFd listenFd ops
    (.on (.use (.fd listenFd)) :: .on (.use (.fd listenFd)) :: acts, left)
  | .client a :: ops =>
    let (acts, left) := httpAcceptLoop tlsEnabled ipcFd listenFd ops
    (.on (.use (.fd listenFd)) :: .on (.use (.fd listenFd)) :: serveClient tlsEnabled a ++ acts, left)

/-! ## The start -/

/-- the build, the config, and what the calls answer -/
structure ChildEnv where
  withTls : Bool
  tlsCertPath : CStr
  tlsKeyPath : CStr
  pollIntervalS : ℤ
  ctrDrbgSeed : ℤ
  parseCert : ℤ
  parseKey : ℤ
  configDefaults : ℤ
  ownCert : ℤ
  seccomp : ℤ
  ipcFd : ℤ
  /-- `num_gpus` of the init message, none when it cannot be read -/
  init : Option ℤ
  slotsAllocated : Bool
  fdAllocated : Bool
  pthreadCreate : ℤ
  socket : ℤ
  inetAton : ℤ
  bind : ℤ
  listen : ℤ
deriving DecidableEq, Repr

/-- the return value, `g_tls_enabled`, and what is done -/
def httpChildTlsInit (env : ChildEnv) : ℤ × Bool × List ChildAct :=
  if env.tlsCertPath = [] then (0, false, [])
  else if env.tlsKeyPath = [] then (-1, false, [])
  else if env.ctrDrbgSeed ≠ 0 then (-1, false, [])
  else if env.parseCert ≠ 0 then (-1, false, [.openFile env.tlsCertPath])
  else if env.parseKey ≠ 0 then (-1, false, [.openFile env.tlsCertPath, .openFile env.tlsKeyPath])
  else if env.configDefaults ≠ 0 then (-1, false, [.openFile env.tlsCertPath, .openFile env.tlsKeyPath])
  else if env.ownCert ≠ 0 then (-1, false, [.openFile env.tlsCertPath, .openFile env.tlsKeyPath])
  else (0, true, [.openFile env.tlsCertPath, .openFile env.tlsKeyPath])

/-- the listening socket or -1 -/
def bindListen (env : ChildEnv) : ℤ × List ChildAct :=
  let acquire : List ChildAct := [.on (.acquire (.fd env.socket)), .on (.use (.fd env.socket))]
  let use : ChildAct := .on (.use (.fd env.socket))
  let close : ChildAct := .on (.release (.fd env.socket))
  if env.socket < 0 then (-1, [])
  else if env.inetAton = 0 then (-1, acquire ++ [close])
  else if env.bind < 0 then (-1, acquire ++ [use, close])
  else if env.listen < 0 then (-1, acquire ++ [use, use, close])
  else (env.socket, acquire ++ [use, use])

/-- what is done, and the exit code; none while the child runs -/
def httpChildRun (env : ChildEnv) (tlsEnabled : Bool) (ops : List LoopOp) : List ChildAct × Option ℤ :=
  let read : ChildAct := .on (.use (.fd env.ipcFd))
  match env.init.bind fun numGpus => (childStart numGpus env.pollIntervalS : Option (ChildState ℚ)) with
  | none => ([read], some 1)
  | some _ =>
    if env.slotsAllocated = false then ([read], some 1)
    else if env.fdAllocated = false then ([read], some 1)
    else if env.pthreadCreate ≠ 0 then ([read], some 1)
    else
      let (listenFd, acts) := bindListen env
      if listenFd < 0 then (read :: acts, some 1)
      else
        let (loop, left) := httpAcceptLoop tlsEnabled env.ipcFd listenFd ops
        if left then (read :: acts ++ loop ++ [.on (.release (.fd listenFd))], some 0)
        else (read :: acts ++ loop, none)

/-- the child's branch of `spawn_http_child`, with its own end of the socketpair -/
def childProcess (env : ChildEnv) (ops : List LoopOp) : List ChildAct × Option ℤ :=
  let (ret, tlsEnabled, files) := if env.withTls then httpChildTlsInit env else (0, false, [])
  if ret < 0 then (files, some 1)
  -- `procpriv_child_setup`; the results of prctl and capset are not looked at
  else if env.seccomp < 0 then (files, some 1)
  else
    let (acts, code) := httpChildRun env tlsEnabled ops
    (files ++ .installFilter :: acts, code)

end GpuHealth.Serving
