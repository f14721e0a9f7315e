import SolarConnect.Misc.Slots
import SolarConnect.Misc.Bytes
import SolarConnect.Misc.Runs
import SolarConnect.Misc.Spans
import SolarConnect.Misc.FormEncoding
import SolarConnect.Misc.Nvs
import SolarConnect.Misc.NvsLog
import SolarConnect.Misc.SlotCache
import SolarConnect.Misc.DnsMessage
import SolarConnect.Misc.OnesComplement
import SolarConnect.Misc.Crc
import SolarConnect.Misc.Accesses
import SolarConnect.Misc.CharRefs
import SolarConnect.Misc.WriteBack
import SolarConnect.Misc.PowerLoss
import SolarConnect.Misc.FlatJson
import SolarConnect.Misc.CText
import SolarConnect.Misc.FormFields
import SolarConnect.Misc.Binary32
import SolarConnect.Misc.Calls
import SolarConnect.Misc.CivilTime
import SolarConnect.Misc.TwoRuns
import SolarConnect.Misc.AlikeStores
import SolarConnect.Power.Battery
import SolarConnect.Power.DeepDischarge
import SolarConnect.Power.Bookkeeping
import SolarConnect.Power.Debounce
import SolarConnect.Power.ApSwitch
import SolarConnect.Power.VoltageOrder
import SolarConnect.Power.Recovery
import SolarConnect.Sensors.PortSync
import SolarConnect.Sensors.InUseTime
import SolarConnect.Sensors.UsbStatus
import SolarConnect.Sensors.Ina219
import SolarConnect.Sensors.PortTasks
import SolarConnect.Sensors.Ina219Bus
import SolarConnect.Sensors.SyncTask
import SolarConnect.Sensors.Pzem
import SolarConnect.Sensors.OutletStatus
import SolarConnect.Sensors.EnergyToday
import SolarConnect.Sensors.PzemFrames
import SolarConnect.Sensors.PzemRows
import SolarConnect.Rfid.Reader
import SolarConnect.Rfid.PowerOutputs
import SolarConnect.Rfid.Presence
import SolarConnect.Rfid.Mfrc522
import SolarConnect.Config.Commands
import SolarConnect.Config.InPlaceDecode
import SolarConnect.Config.AdminForm
import SolarConnect.Config.SavedSettings
import SolarConnect.Config.Boot
import SolarConnect.Net.PortMap
import SolarConnect.Net.PortDeletes
import SolarConnect.Net.PortReboots
import SolarConnect.Net.ClientAcl
import SolarConnect.Net.LwipHooks
import SolarConnect.Net.EgressGate
import SolarConnect.Net.Checksum
import SolarConnect.Net.UdpProbe
import SolarConnect.Dns.Packet
import SolarConnect.Dns.Cache
import SolarConnect.Dns.Question
import SolarConnect.Dns.Server
import SolarConnect.Dns.CacheAnswers
import SolarConnect.Dns.CacheMap
import SolarConnect.Dns.TaskBuffers
import SolarConnect.Dns.LocalAnswers
import SolarConnect.Dns.Upstream
import SolarConnect.Dns.Bounds
import SolarConnect.Dns.QuestionParsers
import SolarConnect.Http.Authorization
import SolarConnect.Http.RequestBody
import SolarConnect.Http.HtmlEscape
import SolarConnect.Http.JsonAppend
import SolarConnect.Http.AdminPorts
import SolarConnect.Http.ConfigPage
import SolarConnect.Session.Quota
import SolarConnect.Session.RecordedUsage
import SolarConnect.Session.Charges
import SolarConnect.Session.Schedule
import SolarConnect.Session.Server
import SolarConnect.Session.Handlers
import SolarConnect.Session.Gate
import SolarConnect.Session.Binding
import SolarConnect.Session.Starting
import SolarConnect.Session.Steps
import SolarConnect.Session.Backing
import SolarConnect.Session.Admission
import SolarConnect.Session.Bystanders
import SolarConnect.Session.AclCalls
import SolarConnect.Session.Settling
import SolarConnect.Session.Books
import SolarConnect.Session.Resuming
import SolarConnect.Session.Usage
import SolarConnect.Session.DailyUse
import SolarConnect.Session.WithinQuota
import SolarConnect.Session.DailyQuota
import SolarConnect.Session.Countdown
import SolarConnect.Session.Midnight
import SolarConnect.Session.Addresses
import SolarConnect.Session.Access
import SolarConnect.Session.Routing
import SolarConnect.Session.Announcing
import SolarConnect.Session.Reports
import SolarConnect.Session.Reporting
import SolarConnect.Session.OnePerMac
import SolarConnect.Session.QuotaOnNvs
import SolarConnect.Session.QuotaReboots
import SolarConnect.Supabase.Rows
import SolarConnect.Supabase.Bodies
import SolarConnect.Config.Console
import SolarConnect.Config.Secrecy
