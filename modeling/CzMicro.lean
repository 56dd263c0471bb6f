import CzMicro.Go.Strings
import CzMicro.Go.Map
import CzMicro.Cli.Context
import CzMicro.Json.Decode
import CzMicro.Json.Lemmas
import CzMicro.Api.Run
import CzMicro.Api.Lemmas.Namespace
import CzMicro.Api.Lemmas.Version
import CzMicro.Proxy.Run
import CzMicro.Service.Run
import CzMicro.Service.Lemmas.Metadata
import CzMicro.Cmd.Setup
import CzMicro.Api.Theorems
import CzMicro.Proxy.Theorems
import CzMicro.Service.Theorems
import CzMicro.Services.Run
import CzMicro.Store.Internal
import CzMicro.Cmd.Commands
import CzMicro.Cmd.Theorems
