import CloudflareSync.Value
import CloudflareSync.Runtime
import CloudflareSync.Client
import CloudflareSync.Config
import CloudflareSync.Schema
import CloudflareSync.Records
import CloudflareSync.Spec
import CloudflareSync.ZoneWrite
import CloudflareSync.Atomicity
import CloudflareSync.UserEngine
import CloudflareSync.UserFrame
import CloudflareSync.Pagination
import CloudflareSync.HostFailover
import CloudflareSync.Termination
import CloudflareSync.Containment
import CloudflareSync.UserRun
import CloudflareSync.CredentialStatus
import CloudflareSync.ExitCode
import CloudflareSync.Pools
import CloudflareSync.PoolSteady
import CloudflareSync.PoolLinking
import CloudflareSync.PoolInvariant
import CloudflareSync.PoolAtomicity
import CloudflareSync.EngineSteady
import CloudflareSync.Integrity
import CloudflareSync.Rerun
import CloudflareSync.ConfigText
import CloudflareSync.CheckMydns
import CloudflareSync.DbConfig
import CloudflareSync.TextFormats
import CloudflareSync.GeoSensors
import CloudflareSync.MysqlSensor
import CloudflareSync.ApiSensor
import CloudflareSync.SelfUpdate
import CloudflareSync.ProxyIps
