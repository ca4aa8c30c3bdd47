import QuerySession.Simulation.Server

/-!
# Earlier names

Names under which simulated servers and the tables of their workspaces were known before. Programs
that drive a simulation may go on using them.
-/

namespace QuerySession

@[deprecated SimulatedServer (since := "2026-11-20")]
abbrev Play := SimulatedServer

@[deprecated WorkspaceTables (since := "2026-11-20")]
abbrev Shelf := WorkspaceTables

@[deprecated World.tablesOf (since := "2026-11-20")]
abbrev World.shelf := World.tablesOf

@[deprecated World.putTables (since := "2026-11-20")]
abbrev World.putShelf := World.putTables

namespace Play

export SimulatedServer (actForTarget addCandidate authenticate authority build cleanup close
  closeRegistry configureStorage configureWorkspace defaultSchema drop ensure establish getOption
  getProvider isTemporary keepEstablisher leaveStorages load makeAuthority makeEstablisher nextId
  on onAlias putRegistry register registry releaseUnused remove replaceCredentials resolveProvider
  run session setOption setSchema setSystemOption shutdown submit workspace)

end Play

end QuerySession
