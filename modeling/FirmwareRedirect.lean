import FirmwareRedirect.AccessLog
import FirmwareRedirect.Cli.Command
import FirmwareRedirect.Cli.Error
import FirmwareRedirect.Cli.Parse
import FirmwareRedirect.Cli.Suggest
import FirmwareRedirect.Config.Load
import FirmwareRedirect.Config.Settings
import FirmwareRedirect.Config.Template
import FirmwareRedirect.Decode.Unexpected
import FirmwareRedirect.Files
import FirmwareRedirect.History.Clock
import FirmwareRedirect.History.Page
import FirmwareRedirect.History.Store
import FirmwareRedirect.History.Sweep
import FirmwareRedirect.Http.Header
import FirmwareRedirect.Http.Message
import FirmwareRedirect.Http.Target
import FirmwareRedirect.Http.Wire
import FirmwareRedirect.Json.Reader
import FirmwareRedirect.Logging.Filter
import FirmwareRedirect.Logging.Record
import FirmwareRedirect.Main
import FirmwareRedirect.Models.JsonMap
import FirmwareRedirect.Models.Load
import FirmwareRedirect.Models.Resolve
import FirmwareRedirect.Models.Table
import FirmwareRedirect.Models.YamlMap
import FirmwareRedirect.Net.Address
import FirmwareRedirect.Net.Listen
import FirmwareRedirect.Number.Binary64
import FirmwareRedirect.Number.DecimalText
import FirmwareRedirect.Number.FloatText
import FirmwareRedirect.Number.Shortest
import FirmwareRedirect.Program.Effect
import FirmwareRedirect.Program.Run
import FirmwareRedirect.Program.World
import FirmwareRedirect.Proofs.DeviceResolution
import FirmwareRedirect.Proofs.History.Retention
import FirmwareRedirect.Proofs.History.Shape
import FirmwareRedirect.Proofs.ModelMapPath
import FirmwareRedirect.Proofs.RequestHistory
import FirmwareRedirect.Proofs.SettingsPrecedence
import FirmwareRedirect.Proofs.DeviceAnswer
import FirmwareRedirect.Proofs.ReplayAgreement
import FirmwareRedirect.Proofs.HtmlEscape
import FirmwareRedirect.Proofs.HistoryPage
import FirmwareRedirect.Proofs.TemplateRender
import FirmwareRedirect.Proofs.History.PruneTwice
import FirmwareRedirect.Proofs.FileReplay
import FirmwareRedirect.Proofs.History.Lifetime
import FirmwareRedirect.Proofs.History.SweepStart
import FirmwareRedirect.Proofs.History.ServiceRun
import FirmwareRedirect.Proofs.History.SleepRun
import FirmwareRedirect.Service.Client
import FirmwareRedirect.Service.Routes
import FirmwareRedirect.Text.Html
import FirmwareRedirect.Text.Lossy
import FirmwareRedirect.Text.Quoted
import FirmwareRedirect.Text.Split
import FirmwareRedirect.Text.Unicode.GraphemeExtend
import FirmwareRedirect.Text.Unicode.Printable
import FirmwareRedirect.Text.Unicode.Properties
import FirmwareRedirect.Toml.Cursor
import FirmwareRedirect.Toml.Document
import FirmwareRedirect.Toml.Numbers
import FirmwareRedirect.Toml.Strings
import FirmwareRedirect.Toml.Tree
import FirmwareRedirect.Toml.Values
import FirmwareRedirect.Yaml.Document
import FirmwareRedirect.Yaml.Parser
import FirmwareRedirect.Yaml.Scalar
import FirmwareRedirect.Yaml.Scanner.Fetch
import FirmwareRedirect.Yaml.Scanner.Scalars
import FirmwareRedirect.Yaml.Scanner.State
import FirmwareRedirect.Yaml.Scanner.Tags
import FirmwareRedirect.Yaml.Tokens
